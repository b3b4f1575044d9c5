import MemberDocs.Proofs.Collection.Restriction
import MemberDocs.Proofs.Generation.EffectiveSettings
import MemberDocs.Proofs.Generation.Sequence
import MemberDocs.Proofs.Volume.Names

/-! # What a log file changes

A run keeps its log at a place of its own, if no path that it uses passes there (`PassesBy`). Such a run
does what it would do without a log file, and ends alike (`run_unlogged`): each step commutes with
leaving out the log file and the traces (`Journal.unlogged`). The traces are all that is told in
addition, and only the record of the failure that stops the run has one (`exists_told_of_run`).
-/

namespace MemberDocs.Generation

open Volume (OnTheWay)
open Collection (leadsToMarkdown)

def LogRecord.untraced (record : LogRecord) : LogRecord :=
  { record with hasTrace := false }

namespace Journal

/-- The journal as it would be without a log file at a location. -/
def unlogged (journal : Journal) (location : Location) : Journal where
  volume := journal.volume.without location
  records := journal.records.map LogRecord.untraced

@[simp] theorem volume_unlogged (journal : Journal) (location : Location) :
    (journal.unlogged location).volume = journal.volume.without location := rfl

/-- The journal keeps a log nowhere but in the file at a location. -/
structure LogsAt (journal : Journal) (directory location : Location) : Prop where
  sound : journal.volume.WellFormedAt directory
  isFile : ∃ content, journal.volume.get? location = some (.file content)
  only : ∀ other, journal.LogsTo other → other = location

variable {journal before after : Journal} {directory location : Location}

theorem LogsAt.of_writes {written : Location → Prop} (logs : before.LogsAt directory location)
    (writes : Writes written before after) : after.LogsAt directory location where
  sound := writes.wellFormedAt logs.sound
  isFile := by
    obtain ⟨content, there⟩ := logs.isFile
    exact writes.volume.files _ content there
  only other logsTo := logs.only other ((writes.logsTo_iff other).mp logsTo)

theorem only_of_logFile (same : after.logFile = before.logFile)
    (only : ∀ other, before.LogsTo other → other = location) :
    ∀ other, after.LogsTo other → other = location := by
  intro other logsTo
  rw [LogsTo, same] at logsTo
  exact only other logsTo

theorem unlogged_note (logs : ∀ other, journal.LogsTo other → other = location)
    (record : LogRecord) :
    (journal.note record).unlogged location =
      (journal.unlogged location).note record.untraced := by
  have kept : (journal.note record).volume.without location = journal.volume.without location := by
    unfold note
    cases found : journal.logFile with
    | none => rfl
    | some file =>
      have place : file.location = location := logs _ ⟨file, found, rfl⟩
      dsimp only [addLine]
      rw [place]
      split
      next => exact Volume.without_put_self _ _
      next => rfl
  unfold unlogged
  rw [kept]
  simp [note]

end Journal

variable {journal : Journal} {directory location : Location} {settings : Settings}
  {documentation : Path}

/-! ## Steps without the log file -/

/-- What a step does without the log file is what it does with it, but for the log file. -/
def unloggedStep {α : Type} (location : Location) (step : Journal × α) : Journal × α :=
  (step.1.unlogged location, step.2)

theorem findBlock_without (logs : journal.LogsAt directory location)
    (other : leadsToMarkdown location = false) (apart : ¬ OnTheWay directory documentation location) :
    FrontMatter.findBlock (journal.volume.without location) directory documentation =
      FrontMatter.findBlock journal.volume directory documentation := by
  have among {files : List Path} (each : ∀ file ∈ files, ¬ OnTheWay directory file location) :
      FrontMatter.findBlockAmong (journal.volume.without location) directory files =
        FrontMatter.findBlockAmong journal.volume directory files := by
    induction files with
    | nil => rfl
    | cons file rest ih =>
      rw [FrontMatter.findBlockAmong, FrontMatter.findBlockAmong, FrontMatter.readBlock,
        FrontMatter.readBlock, Volume.read_without (each file List.mem_cons_self),
        ih fun later member => each later (List.mem_cons_of_mem file member)]
  unfold FrontMatter.findBlock
  rw [Volume.hasPath_without apart, Collection.discover_without apart other]
  split
  next =>
    cases found : Collection.discover journal.volume directory documentation with
    | error fault => rfl
    | ok files =>
      obtain ⟨content, isFile⟩ := logs.isFile
      refine among fun file listed => ?_
      rw [Collection.eq_documentationFiles_of_discover found] at listed
      exact Collection.apart_of_mem_documentationFiles logs.sound.wellFormed isFile other apart
        listed
  next => rfl

theorem effectiveSettings_without (logs : journal.LogsAt directory location)
    (other : leadsToMarkdown location = false) (apart : ¬ OnTheWay directory documentation location)
    (settings : Settings) :
    effectiveSettings (journal.volume.without location) directory documentation settings =
      effectiveSettings journal.volume directory documentation settings := by
  unfold effectiveSettings frontMatterOptions
  rw [findBlock_without logs other apart]

theorem readOptions_unlogged (logs : journal.LogsAt directory location) (content : String) :
    readOptions (journal.unlogged location) content =
      unloggedStep location (readOptions journal content) := by
  unfold readOptions unloggedStep
  split
  next => rfl
  next options unknown read =>
    by_cases known : unknown.isEmpty
    · rw [if_pos known, if_pos known]
    · rw [if_neg known, if_neg known, Journal.unlogged_note logs.only]
      rfl

theorem applyFrontMatter_unlogged (logs : journal.LogsAt directory location)
    (other : leadsToMarkdown location = false) (apart : ¬ OnTheWay directory documentation location)
    (settings : Settings) :
    applyFrontMatter (journal.unlogged location) directory documentation settings =
      unloggedStep location (applyFrontMatter journal directory documentation settings) := by
  have found := findBlock_without logs other apart
  unfold applyFrontMatter
  rw [Journal.volume_unlogged, found]
  split
  next => rfl
  next =>
    rw [unloggedStep, Journal.unlogged_note logs.only]
    rfl
  next path block _ =>
    rw [readOptions_unlogged logs]
    cases read : readOptions journal block.content with
    | mk reading outcome =>
      obtain ⟨records, rfl⟩ := exists_notes_of_readOptions read
      have noted := logs.of_writes (Journal.writes_notes logs.sound.wellFormed records)
      cases outcome with
      | error error => rfl
      | ok options =>
        dsimp only [unloggedStep]
        rw [Journal.unlogged_note noted.only]
        rfl

theorem outputProblem?_without
    (apart : ∀ documentation, settings.documentation = some documentation →
      ¬ OnTheWay directory documentation location) (volume : Volume) :
    settings.outputProblem? (volume.without location) directory =
      settings.outputProblem? volume directory := by
  have same : settings.documentationIsFile (volume.without location) directory =
      settings.documentationIsFile volume directory := by
    unfold Settings.documentationIsFile
    split
    next documentation documented => exact Volume.isFile_without (apart documentation documented)
    next => rfl
  rw [Settings.outputProblem?, Settings.outputProblem?, same]

theorem makeDocumentation_without (apart : ¬ OnTheWay directory documentation location)
    (volume : Volume) :
    makeDocumentation (volume.without location) directory documentation =
      ((makeDocumentation volume directory documentation).1.without location,
        (makeDocumentation volume directory documentation).2) := by
  unfold makeDocumentation
  rw [Volume.isFile_without apart, Volume.ensureDirectories_without apart]
  split <;> rfl

theorem generateFile_unlogged (logs : ∀ other, journal.LogsTo other → other = location)
    {source output : Path} (read : ¬ OnTheWay directory source location)
    (written : ¬ OnTheWay directory output location) :
    generateFile (journal.unlogged location) directory source output =
      unloggedStep location (generateFile journal directory source output) := by
  unfold generateFile
  rw [Journal.volume_unlogged, Volume.read_without read]
  split
  next => rfl
  next bytes _ =>
    split
    next => rfl
    next => rfl
    next markdown _ =>
      rw [Volume.write_without written]
      cases done : journal.volume.write directory output (Text.encodeUtf8 markdown) with
      | error fault => rfl
      | ok volume =>
        dsimp only [Except.map, unloggedStep]
        have same : ({ journal with volume } : Journal).unlogged location =
            { journal.unlogged location with volume := volume.without location } := rfl
        rw [@Journal.unlogged_note { journal with volume } _ logs, same]
        rfl

def Progress.unlogged (progress : Progress) (location : Location) : Progress :=
  { progress with journal := progress.journal.unlogged location }

/-- What is done with some inputs without the log file is what is done with it, but for the log file. -/
def unloggedProgress (location : Location) (step : Progress × Option Failure) :
    Progress × Option Failure :=
  (step.1.unlogged location, step.2)

section Inputs

variable {policy : TagPolicy} {output : Path → Path} {progress : Progress}

theorem generateNext_unlogged (logs : ∀ other, progress.journal.LogsTo other → other = location)
    {source : Path} (read : ¬ OnTheWay directory source location)
    (written : ¬ OnTheWay directory (output source) location) :
    generateNext directory policy output (progress.unlogged location) source =
      unloggedProgress location (generateNext directory policy output progress source) := by
  have step := generateFile_unlogged logs read written
  unfold generateNext
  rw [show (progress.unlogged location).journal = progress.journal.unlogged location from rfl, step]
  cases done : generateFile progress.journal directory source (output source) with
  | mk after outcome =>
    cases outcome with
    | error failure => rfl
    | ok report? =>
      cases report? with
      | none => rfl
      | some report =>
        cases policy with
        | error => rfl
        | warn =>
          -- Where an input is reported, nothing has been written.
          obtain rfl : after = progress.journal := by
            unfold generateFile at done
            split at done
            next => cases congrArg Prod.snd done
            next =>
              split at done
              next => exact (congrArg Prod.fst done).symm
              next => cases congrArg Prod.snd done
              next => split at done <;> cases congrArg Prod.snd done
          dsimp only [unloggedStep, unloggedProgress, Progress.skip, Progress.unlogged]
          rw [Journal.unlogged_note logs]
          rfl

theorem generateAll_unlogged (logs : progress.journal.LogsAt directory location)
    {sources : List Path} (read : ∀ source ∈ sources, ¬ OnTheWay directory source location)
    (written : ∀ source ∈ sources, ¬ OnTheWay directory (output source) location) :
    generateAll directory policy output (progress.unlogged location) sources =
      unloggedProgress location (generateAll directory policy output progress sources) := by
  induction sources generalizing progress with
  | nil => rfl
  | cons source rest ih =>
    rw [generateAll, generateAll, generateNext_unlogged logs.only (read source List.mem_cons_self)
      (written source List.mem_cons_self)]
    cases done : generateNext directory policy output progress source with
    | mk later failure =>
      cases failure with
      | some failure => rfl
      | none =>
        obtain ⟨fresh, -, writes⟩ := extends_of_generateNext logs.sound done
        exact ih (logs.of_writes writes)
          (fun other member => read other (List.mem_cons_of_mem source member))
          fun other member => written other (List.mem_cons_of_mem source member)

end Inputs

/-- What is generated for the documentation does not pass the place of a file that is not a Markdown
file. -/
theorem apart_outputPath (other : leadsToMarkdown location = false)
    (apart : ¬ OnTheWay directory documentation location) (isFile : Bool) (source : Path) :
    ¬ OnTheWay directory (outputPath documentation isFile source) location := by
  unfold outputPath
  cases isFile with
  | true => exact apart
  | false =>
    rintro ⟨names, first, passed⟩
    rcases List.prefix_concat_iff.mp first with whole | above
    · have place := Path.resolve_suffixed documentation source.stem directory
      obtain rfl : location = documentation.resolve directory ++ [source.stem ++ ".md"] := by
        rw [passed, whole]
        exact place
      have markdown : leadsToMarkdown [source.stem ++ ".md"] := by
        simp [leadsToMarkdown, Collection.isMarkdownName]
      rw [Collection.leadsToMarkdown_append _ (List.cons_ne_nil _ _), markdown] at other
      cases other
    · exact apart ⟨names, above, passed⟩

theorem logFile_merge (journal : Journal) (directory : Location) (documentation : Path)
    (generated : List Path) (output : Path) :
    (Collection.merge journal directory documentation generated output).1.logFile =
      journal.logFile := by
  unfold Collection.merge
  split <;> rfl

theorem logFile_mergeGenerated (directory : Location) (settings : Settings) (documentation : Path)
    (progress : Progress) :
    (mergeGenerated directory settings documentation progress).1.logFile =
      progress.journal.logFile := by
  unfold mergeGenerated
  split
  next output _ _ =>
    have kept := logFile_merge progress.journal directory documentation progress.generated output
    split
    next done => rwa [done] at kept
    next done => rwa [done] at kept
  next => rfl

theorem merge_unlogged (logs : journal.LogsAt directory location)
    (other : leadsToMarkdown location = false) (apart : ¬ OnTheWay directory documentation location)
    {generated : List Path} {output : Path}
    (read : ∀ path ∈ generated, ¬ OnTheWay directory path location)
    (written : ¬ OnTheWay directory output location) :
    Collection.merge (journal.unlogged location) directory documentation generated output =
      unloggedStep location
        (Collection.merge journal directory documentation generated output) := by
  unfold Collection.merge
  rw [Journal.volume_unlogged, Collection.findExisting_without apart other]
  cases found : Collection.findExisting journal.volume directory documentation generated output with
  | error failure => rfl
  | ok existing =>
    have sources : ∀ source ∈ existing ++ generated, ¬ OnTheWay directory source location := by
      intro source among
      rcases List.mem_append.mp among with older | fresh
      · obtain ⟨-, discovered, discovers, rfl, -⟩ := Collection.findExisting_eq_ok_iff.mp found
        obtain ⟨content, isFile⟩ := logs.isFile
        have listed := (List.mem_filter.mp older).1
        rw [Collection.eq_documentationFiles_of_discover discovers] at listed
        exact Collection.apart_of_mem_documentationFiles logs.sound.wellFormed isFile other apart
          listed
      · exact read source fresh
    have told : (journal.unlogged location).note
        (Collection.mergeRecord existing generated output) =
          (journal.note (Collection.mergeRecord existing generated output)).unlogged location :=
      (Journal.unlogged_note logs.only (Collection.mergeRecord existing generated output)).symm
    dsimp only
    rw [told]
    dsimp only [Journal.unlogged]
    rw [Collection.writeMerged_without sources written]
    rfl

theorem mergeGenerated_unlogged {progress : Progress}
    (logs : progress.journal.LogsAt directory location) (other : leadsToMarkdown location = false)
    (apart : ¬ OnTheWay directory documentation location)
    (read : ∀ path ∈ progress.generated, ¬ OnTheWay directory path location)
    (written : ∀ output, settings.mergesFiles → settings.output = some output →
      ¬ OnTheWay directory output location) :
    mergeGenerated directory settings documentation (progress.unlogged location) =
      unloggedStep location (mergeGenerated directory settings documentation progress) := by
  unfold mergeGenerated
  split
  next output merges named =>
    have merged : Collection.merge (progress.unlogged location).journal directory documentation
        (progress.unlogged location).generated output =
          unloggedStep location (Collection.merge progress.journal directory documentation
            progress.generated output) :=
      merge_unlogged logs other apart read (written output merges named)
    rw [merged]
    cases done : Collection.merge progress.journal directory documentation progress.generated
        output with
    | mk after failure =>
      cases failure with
      | some failure => rfl
      | none =>
        have kept := logFile_merge progress.journal directory documentation progress.generated output
        rw [done] at kept
        dsimp only [unloggedStep]
        rw [Journal.unlogged_note (Journal.only_of_logFile kept logs.only)]
        rfl
  next => rfl

theorem stopAt_unlogged (logs : ∀ other, journal.LogsTo other → other = location)
    (settings : Settings) (error : String) :
    stopAt (journal.unlogged location) settings error =
      unloggedStep location (stopAt journal settings error) := by
  rw [stopAt, stopAt, unloggedStep, Journal.unlogged_note logs]
  rfl

theorem failWith_unlogged (logs : ∀ other, journal.LogsTo other → other = location)
    (result : RunResult) (failure : Failure) :
    failWith (journal.unlogged location) result failure =
      unloggedStep location (failWith journal result failure) := by
  unfold failWith
  split
  next => rfl
  next =>
    rw [unloggedStep, Journal.unlogged_note logs]
    rfl

/-! ## The run -/

/-- No path that a run uses passes a location: neither its inputs nor its documentation path nor, if it
is to merge, its output. -/
structure PassesBy (volume : Volume) (directory : Location) (settings : Settings)
    (location : Location) : Prop where
  inputs : ∀ source ∈ settings.inputs, ¬ OnTheWay directory source location
  documentation : ∀ documentation, settings.documentation = some documentation →
    ¬ OnTheWay directory documentation location
  output : ∀ documentation effective output, settings.documentation = some documentation →
    effectiveSettings volume directory documentation settings = .ok effective →
      effective.mergesFiles → settings.output = some output → ¬ OnTheWay directory output location

theorem output_of_mem_generated {policy : TagPolicy} {output : Path → Path} {start : Journal}
    {sources : List Path} {progress : Progress} {failure : Option Failure}
    (worked : generateAll directory policy output { journal := start } sources =
      (progress, failure)) {path : Path} (among : path ∈ progress.generated) :
    ∃ source ∈ sources, path = output source := by
  obtain ⟨done, last, works, ends⟩ := works_or_fails directory policy output start sources
  have advanced : progress.generated = generatedPaths output done := by
    rcases ends with rfl | ⟨source, later, failure, rfl, fails⟩
    · have all := generateAll_of_works (Progress.mk start [] []) works []
      rw [List.append_nil] at all
      exact congrArg (·.1.generated) (worked.symm.trans all)
    · have stopped := generateAll_of_fails (Progress.mk start [] []) works fails later
      exact congrArg (·.1.generated) (worked.symm.trans stopped)
  rw [advanced] at among
  obtain ⟨source, member, rfl⟩ := exists_source_of_mem_generatedPaths among
  refine ⟨source, ?_, rfl⟩
  rcases ends with rfl | ⟨_, later, failure, rfl, fails⟩
  · exact member
  · exact List.mem_append_left _ member

theorem produce_unlogged (logs : journal.LogsAt directory location)
    (other : leadsToMarkdown location = false) (apart : ¬ OnTheWay directory documentation location)
    (read : ∀ source ∈ settings.inputs, ¬ OnTheWay directory source location)
    (written : ∀ output, settings.mergesFiles → settings.output = some output →
      ¬ OnTheWay directory output location) :
    produce (journal.unlogged location) directory settings documentation =
      unloggedStep location (produce journal directory settings documentation) := by
  have makes := makeDocumentation_without apart journal.volume
  have isFile : (journal.unlogged location).volume.isFile directory documentation =
      journal.volume.isFile directory documentation := Volume.isFile_without apart
  cases made : makeDocumentation journal.volume directory documentation with
  | mk volume fault =>
    have makesDirectories := makesDirectories_of_makeDocumentation logs.sound made
    have ready : Journal.LogsAt { journal with volume } directory location :=
      logs.of_writes (Journal.writes_of_evolves makesDirectories)
    rw [made, ← Journal.volume_unlogged] at makes
    cases fault with
    | some fault =>
      rw [produce_of_not_made made, produce_of_not_made makes, ← failWith_unlogged ready.only]
      rfl
    | none =>
      let output := outputPath documentation (journal.volume.isFile directory documentation)
      have outputs (source : Path) : ¬ OnTheWay directory (output source) location :=
        apart_outputPath other apart _ source
      have works := @generateAll_unlogged directory location settings.policy output
        { journal := { journal with volume } } ready settings.inputs read fun source _ =>
          outputs source
      cases worked : generateAll directory settings.policy output
          { journal := { journal with volume } } settings.inputs with
      | mk progress failure =>
        obtain ⟨fresh, -, writes⟩ := extends_of_generateAll ready.sound worked
        have reached := ready.of_writes writes
        rw [worked] at works
        have works' : generateAll directory settings.policy
            (outputPath documentation
              ((journal.unlogged location).volume.isFile directory documentation))
            { journal := { journal.unlogged location with volume := volume.without location } }
            settings.inputs = (progress.unlogged location, failure) := by
          rw [isFile]
          exact works
        cases failure with
        | some failure =>
          rw [produce_of_stopped made worked, produce_of_stopped makes works',
            ← failWith_unlogged reached.only]
          rfl
        | none =>
          have generated (path : Path) (among : path ∈ progress.generated) :
              ¬ OnTheWay directory path location := by
            obtain ⟨source, -, rfl⟩ := output_of_mem_generated worked among
            exact outputs source
          have merging := @mergeGenerated_unlogged directory location settings documentation
            progress reached other apart generated written
          cases merged : mergeGenerated directory settings documentation progress with
          | mk after outcome =>
            rw [merged] at merging
            cases outcome with
            | error failure =>
              have kept := logFile_mergeGenerated directory settings documentation progress
              rw [merged] at kept
              rw [produce_of_not_merged made worked merged,
                produce_of_not_merged makes works' merging,
                ← failWith_unlogged (Journal.only_of_logFile kept reached.only)]
              rfl
            | ok target =>
              rw [produce_of_merged made worked merged, produce_of_merged makes works' merging]
              rfl

/-- **A log file has no part in a run.** If nothing that the run uses passes the place of its log, it
does what it does without one, and comes to the same end. -/
theorem run_unlogged (logs : journal.LogsAt directory location)
    (other : leadsToMarkdown location = false)
    (passes : PassesBy (journal.volume.without location) directory settings location) :
    run (journal.unlogged location) directory settings =
      unloggedStep location (run journal directory settings) := by
  have started : (journal.unlogged location).note (startRecord settings) =
      (journal.note (startRecord settings)).unlogged location :=
    (Journal.unlogged_note logs.only (startRecord settings)).symm
  have starts := logs.of_writes (Journal.writes_note logs.sound.wellFormed (startRecord settings))
  cases accepted : settings.inputProblem? with
  | some problem =>
    rw [run_of_refused (.input accepted), run_of_refused (.input accepted), started,
      stopAt_unlogged starts.only]
    rfl
  | none =>
    cases documented : settings.documentation with
    | none => simp [Settings.inputProblem?, documented] at accepted
    | some documentation =>
      have apart := passes.documentation documentation documented
      rw [run_eq_runChecked accepted documented, run_eq_runChecked accepted documented, started,
        runChecked, runChecked, applyFrontMatter_unlogged starts other apart]
      cases applied : applyFrontMatter (journal.note (startRecord settings)) directory documentation
          settings with
      | mk prepared outcome =>
        obtain ⟨records, rfl⟩ := exists_notes_of_applyFrontMatter applied
        have noted := starts.of_writes (Journal.writes_notes starts.sound.wellFormed records)
        cases outcome with
        | error failure =>
          dsimp only [unloggedStep]
          by_cases kind : failure.kind = .content
          · rw [if_pos kind, if_pos kind, stopAt_unlogged noted.only]
            rfl
          · rw [if_neg kind, if_neg kind]
        | ok effective =>
          obtain ⟨inputs, document, output⟩ := paths_of_applyFrontMatter applied
          have inEffect : effectiveSettings (journal.volume.without location) directory
              documentation settings = .ok effective := by
            have before : journal.volume.without location =
                (journal.note (startRecord settings)).volume.without location :=
              congrArg Journal.volume started
            rw [before, effectiveSettings_without starts other apart, ← snd_applyFrontMatter, applied]
          dsimp only [unloggedStep]
          rw [Journal.volume_unlogged,
            outputProblem?_without (by rw [document]; exact passes.documentation)]
          split
          next problem _ =>
            rw [stopAt_unlogged noted.only]
            rfl
          next =>
            exact produce_unlogged noted other apart (inputs ▸ passes.inputs)
              fun target merges named =>
                passes.output documentation effective target documented inEffect merges
                  (output ▸ named)

/-! ## What is told -/

namespace Journal

/-- One journal goes on to another one by records without traces. -/
def Tells (before after : Journal) : Prop :=
  after.traces = before.traces ∧
    ∃ records, after.records = before.records ++ records ∧
      ∀ record ∈ records, record.hasTrace = false

namespace Tells

variable {first second third : Journal}

theorem of_same (traces : second.traces = first.traces) (records : second.records = first.records) :
    first.Tells second :=
  ⟨traces, [], by rw [records, List.append_nil], by simp⟩

theorem trans (before : first.Tells second) (after : second.Tells third) : first.Tells third := by
  obtain ⟨traces, records, told, plain⟩ := before
  obtain ⟨tracesLater, more, toldLater, plainLater⟩ := after
  refine ⟨tracesLater.trans traces, records ++ more, ?_, ?_⟩
  · rw [toldLater, told, List.append_assoc]
  · intro record among
    exact (List.mem_append.mp among).elim (plain record) (plainLater record)

theorem note (journal : Journal) {record : LogRecord} (plain : record.hasTrace = false) :
    journal.Tells (journal.note record) :=
  ⟨rfl, [record], rfl, List.forall_mem_singleton.mpr plain⟩

end Tells

end Journal

theorem tells_applyFrontMatter {after : Journal} {outcome : Except Failure Settings}
    (applied : applyFrontMatter journal directory documentation settings = (after, outcome)) :
    journal.Tells after := by
  unfold applyFrontMatter at applied
  split at applied
  next =>
    obtain rfl := (Prod.mk.inj applied).1
    exact .of_same rfl rfl
  next =>
    obtain rfl := (Prod.mk.inj applied).1
    exact .note journal rfl
  next path block _ =>
    have reads : journal.Tells (readOptions journal block.content).1 := by
      unfold readOptions
      split
      next => exact .of_same rfl rfl
      next =>
        split
        next => exact .of_same rfl rfl
        next => exact .note journal rfl
    split at applied
    next read =>
      obtain rfl := (Prod.mk.inj applied).1
      rwa [read] at reads
    next read =>
      obtain rfl := (Prod.mk.inj applied).1
      rw [read] at reads
      exact reads.trans (.note _ rfl)

theorem Works.tells {policy : TagPolicy} {output : Path → Path} {first last : Journal}
    {worked : List (Path × Completion)}
    (works : Works directory policy output first worked last) : first.Tells last := by
  induction works with
  | nil => exact .of_same rfl rfl
  | cons step _ ih =>
    refine Journal.Tells.trans ?_ ih
    cases step with
    | generated => exact ⟨rfl, [_], rfl, List.forall_mem_singleton.mpr rfl⟩
    | skipped => exact .note _ rfl

theorem tells_mergeGenerated {progress : Progress} {after : Journal}
    {outcome : Except Failure (Option Path)}
    (merged : mergeGenerated directory settings documentation progress = (after, outcome)) :
    progress.journal.Tells after := by
  have merges (output : Path) : progress.journal.Tells
      (Collection.merge progress.journal directory documentation progress.generated output).1 := by
    unfold Collection.merge
    split
    next => exact .of_same rfl rfl
    next => exact ⟨rfl, [_], rfl, List.forall_mem_singleton.mpr rfl⟩
  unfold mergeGenerated at merged
  split at merged
  next output _ _ =>
    have tells := merges output
    split at merged
    next done =>
      obtain rfl := (Prod.mk.inj merged).1
      rwa [done] at tells
    next done =>
      obtain rfl := (Prod.mk.inj merged).1
      rw [done] at tells
      exact tells.trans (.note _ rfl)
  next =>
    obtain rfl := (Prod.mk.inj merged).1
    exact .of_same rfl rfl

/-- The failure that a run has reported. -/
def reported? (outcome : Except Failure RunResult) : Option Failure :=
  outcome.toOption.bind (·.failure)

/-- The record of the failure that a run reports is its last, and the only one that can have a trace. -/
theorem exists_told_of_run (journal : Journal) (directory : Location) (settings : Settings) :
    ∃ told : Journal, journal.Tells told ∧
      (run journal directory settings).1.records = told.records ++
        ((reported? (run journal directory settings).2).map (failureRecord journal)).toList := by
  have starts : journal.Tells (journal.note (startRecord settings)) := .note journal rfl
  rcases stops_or_accepted journal directory settings with
    ⟨stopped, refused, error, stops, same⟩ |
      ⟨documentation, prepared, failure, -, -, applied, -, same⟩ | ⟨⟨stages⟩⟩
  · have tells : journal.Tells stopped := by
      cases stops with
      | input => exact starts
      | frontMatter _ _ applied => exact starts.trans (tells_applyFrontMatter applied)
      | output _ _ applied => exact starts.trans (tells_applyFrontMatter applied)
    rw [same]
    exact ⟨_, tells.trans (.note stopped rfl), (List.append_nil _).symm⟩
  · rw [same]
    exact ⟨_, starts.trans (tells_applyFrontMatter applied), (List.append_nil _).symm⟩
  · have ready : journal.Tells stages.ready :=
      (starts.trans (tells_applyFrontMatter stages.applied)).trans (.of_same rfl rfl)
    rcases stages.succeeds_or_stops with
      ⟨worked, reached, after, merged, made, works, inputs, done⟩ |
        ⟨worked, reached, after, failure, stops⟩
    · rw [stages.run_of_works made works inputs done]
      have merges : reached.Tells after := tells_mergeGenerated done
      exact ⟨_, (ready.trans works.tells).trans merges, (List.append_nil _).symm⟩
    · have tells : journal.Tells after := by
        cases stops with
        | notMade => exact ready
        | stopped _ works => exact ready.trans works.tells
        | notMerged _ works _ failed =>
          have merges : reached.Tells after := tells_mergeGenerated failed
          exact (ready.trans works.tells).trans merges
      rw [stages.run_of_stops stops]
      refine ⟨after, tells, ?_⟩
      unfold failWith
      split
      next => exact (List.append_nil _).symm
      next =>
        dsimp only [reported?, Except.toOption, Option.bind, Option.map, Option.toList]
        rw [failureRecord, ← tells.1]
        rfl

end MemberDocs.Generation
