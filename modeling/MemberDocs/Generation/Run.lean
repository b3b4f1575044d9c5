import MemberDocs.Collection.Merge
import MemberDocs.Generation.FrontMatter

/-! # Runs

A run checks its settings, applies front matter, makes the documentation directory, generates a file
for each input in order, and merges the files if it is told to. The inputs are worked through as a
fold (`generateAll`), which stops at the first input that fails. Problems of the settings and
failures of a kind that can be expected are part of the result; all others stop the run without one.
-/

namespace MemberDocs.Generation

/-- What a run reports. -/
structure RunResult where
  settings : Settings
  generated : List Path := []
  /-- The inputs that were skipped. -/
  warnings : List TagReport := []
  errors : List String := []
  merged : Option Path := none
  /-- The failure that stopped the run. -/
  failure : Option Failure := none
  /-- The run has come to its end. -/
  success : Bool := false
deriving DecidableEq, Repr

/-- The file that an input is generated into. -/
def outputPath (documentation : Path) (documentationIsFile : Bool) (source : Path) : Path :=
  if documentationIsFile then documentation else documentation.child (source.stem ++ ".md")

/-- Generates the file of one input. An input with a tag that has no rule is reported, and nothing
is written for it. -/
def generateFile (journal : Journal) (directory : Location) (source output : Path) :
    Journal × Except Failure (Option TagReport) :=
  match journal.volume.read directory source with
  | .error fault => (journal, .error (.file fault))
  | .ok bytes =>
    match Markdown.convertBytes bytes with
    | .error (.rendering (.unknownTag tag)) => (journal, .ok (some ⟨tag, source.text⟩))
    | .error error => (journal, .error (.conversion error))
    | .ok markdown =>
      match journal.volume.write directory output (Text.encodeUtf8 markdown) with
      | .error fault => (journal, .error (.file fault))
      | .ok volume =>
        (Journal.note { journal with volume }
          { level := .info, source := .run
            message := "Generated " ++ output.text ++ " from " ++ source.text }, .ok none)

/-- What has been generated so far. -/
structure Progress where
  journal : Journal
  generated : List Path := []
  warnings : List TagReport := []

def Progress.skip (progress : Progress) (report : TagReport) : Progress :=
  { progress with
    warnings := progress.warnings ++ [report]
    journal := progress.journal.note
      { level := .warning, source := .run
        message := report.message ++ "; file skipped" } }

/-- Generates one input, and tells what stops the run at it. -/
def generateNext (directory : Location) (policy : TagPolicy) (output : Path → Path)
    (progress : Progress) (source : Path) : Progress × Option Failure :=
  match generateFile progress.journal directory source (output source) with
  | (journal, .error failure) => ({ progress with journal }, some failure)
  | (journal, .ok none) =>
    ({ progress with journal, generated := progress.generated ++ [output source] }, none)
  | (journal, .ok (some report)) =>
    match policy with
    | .warn => (Progress.skip { progress with journal } report, none)
    | .error => ({ progress with journal }, some (.unknownTag report))

/-- Generates the inputs in order, up to the first that stops the run. -/
def generateAll (directory : Location) (policy : TagPolicy) (output : Path → Path)
    (progress : Progress) : List Path → Progress × Option Failure
  | [] => (progress, none)
  | source :: sources =>
    match generateNext directory policy output progress source with
    | (progress, some failure) => (progress, some failure)
    | (progress, none) => generateAll directory policy output progress sources

/-- A run that stops because of its settings. -/
def stopAt (journal : Journal) (settings : Settings) (error : String) : Journal × RunResult :=
  (journal.note { level := .error, source := .run, message := error },
    { settings, errors := [error] })

/-- Merges the files after they have been generated. -/
def mergeGenerated (directory : Location) (settings : Settings) (documentation : Path)
    (progress : Progress) : Journal × Except Failure (Option Path) :=
  match settings.mergesFiles, settings.output with
  | true, some output =>
    match Collection.merge progress.journal directory documentation progress.generated output with
    | (journal, some failure) => (journal, .error failure)
    | (journal, none) =>
      (journal.note
        { level := .info, source := .run
          message := "Merged Markdown written to " ++ output.text }, .ok (some output))
  | _, _ => (progress.journal, .ok none)

/-- A run that a failure stops. A failure that cannot be expected leaves no result. -/
def failWith (journal : Journal) (result : RunResult) (failure : Failure) :
    Journal × Except Failure RunResult :=
  match failure.kind with
  | .other => (journal, .error failure)
  | _ =>
    (journal.note
      { level := .error, source := .run, hasTrace := journal.traces
        message := "Markdown generation failed: " ++ failure.message },
      .ok { result with errors := [failure.message], failure := some failure })

/-- Writes the files of a run whose settings have been checked. -/
def produce (journal : Journal) (directory : Location) (settings : Settings)
    (documentation : Path) : Journal × Except Failure RunResult :=
  let isFile := journal.volume.isFile directory documentation
  let (volume, fault) :=
    if isFile then (journal.volume, none)
    else journal.volume.ensureDirectories directory documentation
  let journal := { journal with volume }
  match fault with
  | some fault => failWith journal { settings } (.file fault)
  | none =>
    let (progress, failure) :=
      generateAll directory settings.policy (outputPath documentation isFile) { journal }
        settings.inputs
    let result : RunResult :=
      { settings, generated := progress.generated, warnings := progress.warnings }
    match failure with
    | some failure => failWith progress.journal result failure
    | none =>
      match mergeGenerated directory settings documentation progress with
      | (journal, .error failure) => failWith journal result failure
      | (journal, .ok merged) => (journal, .ok { result with merged, success := true })

/-- Applies front matter, checks the settings again and writes the files. -/
def runChecked (journal : Journal) (directory : Location) (settings : Settings)
    (documentation : Path) : Journal × Except Failure RunResult :=
  match applyFrontMatter journal directory documentation settings with
  | (journal, .error failure) =>
    if failure.kind = .content then
      let (journal, result) := stopAt journal settings failure.message
      (journal, .ok result)
    else (journal, .error failure)
  | (journal, .ok settings) =>
    match settings.outputProblem? journal.volume directory with
    | some problem =>
      let (journal, result) := stopAt journal settings problem.message
      (journal, .ok result)
    | none => produce journal directory settings documentation

/-- A run. -/
def run (journal : Journal) (directory : Location) (settings : Settings) :
    Journal × Except Failure RunResult :=
  let journal := journal.note
    { level := .info, source := .run
      message := "Starting generation run for " ++ toString settings.inputs.length ++
        " input file(s)" }
  let stop (problem : Problem) : Journal × Except Failure RunResult :=
    let (journal, result) := stopAt journal settings problem.message
    (journal, .ok result)
  match settings.inputProblem?, settings.documentation with
  | some problem, _ => stop problem
  | none, none => stop .noDocumentation
  | none, some documentation => runChecked journal directory settings documentation

end MemberDocs.Generation
