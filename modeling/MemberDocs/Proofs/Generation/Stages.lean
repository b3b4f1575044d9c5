import MemberDocs.Proofs.Collection.Merge
import MemberDocs.Proofs.Generation.Progress

/-! # The stages of a run

A run is stopped early, or its settings are accepted, before front matter is applied and after it
(`stops_or_accepted`). A run without an error has gone through all its stages: after that, the
documentation directory was made, and no input stopped it (`GeneratedAll`). What is left to it then is to
merge (`generatedAll_of_run`). Before the merge, nothing but the generated files has been written
(`GeneratedAll.writes`).
-/

namespace MemberDocs.Generation

variable {journal : Journal} {directory : Location} {settings : Settings}

/-! ## Front matter -/

/-- What is told while front matter is read. -/
theorem exists_notes_of_readOptions {after : Journal} {content : String}
    {outcome : Except FrontMatter.OptionsError FrontMatter.Options}
    (done : readOptions journal content = (after, outcome)) :
    ∃ records, after = journal.notes records := by
  unfold readOptions at done
  split at done
  next =>
    obtain ⟨rfl, rfl⟩ := Prod.mk.inj done
    exact ⟨[], rfl⟩
  next =>
    split at done
    next =>
      obtain ⟨rfl, rfl⟩ := Prod.mk.inj done
      exact ⟨[], rfl⟩
    next =>
      obtain ⟨rfl, rfl⟩ := Prod.mk.inj done
      exact ⟨[_], rfl⟩

/-- Front matter is applied by notes alone. -/
theorem exists_notes_of_applyFrontMatter {after : Journal} {documentation : Path}
    {outcome : Except Failure Settings}
    (done : applyFrontMatter journal directory documentation settings = (after, outcome)) :
    ∃ records, after = journal.notes records := by
  unfold applyFrontMatter at done
  split at done
  next =>
    obtain ⟨rfl, rfl⟩ := Prod.mk.inj done
    exact ⟨[], rfl⟩
  next =>
    obtain ⟨rfl, rfl⟩ := Prod.mk.inj done
    exact ⟨[_], rfl⟩
  next path block found =>
    split at done
    next reading error failed =>
      obtain ⟨rfl, rfl⟩ := Prod.mk.inj done
      exact exists_notes_of_readOptions failed
    next reading options succeeded =>
      obtain ⟨rfl, rfl⟩ := Prod.mk.inj done
      obtain ⟨records, rfl⟩ := exists_notes_of_readOptions succeeded
      exact ⟨records ++ [_], (Journal.notes_concat _ _ _).symm⟩

/-- Front matter says nothing about what is read and where it is written to. -/
theorem paths_of_applyFrontMatter {after : Journal} {documentation : Path} {effective : Settings}
    (done : applyFrontMatter journal directory documentation settings = (after, .ok effective)) :
    effective.inputs = settings.inputs ∧ effective.documentation = settings.documentation ∧
      effective.output = settings.output := by
  unfold applyFrontMatter at done
  split at done
  next => simp at done
  next =>
    obtain rfl : settings = effective := Except.ok.inj (congrArg Prod.snd done)
    exact ⟨rfl, rfl, rfl⟩
  next =>
    split at done
    next => simp at done
    next reading options succeeded =>
      obtain rfl : settings.override options = effective :=
        Except.ok.inj (congrArg Prod.snd done)
      exact ⟨rfl, rfl, rfl⟩

/-! ## Generation -/

/-- What a run tells when it starts. -/
def startRecord (settings : Settings) : LogRecord :=
  { level := .info, source := .run
    message := "Starting generation run for " ++ toString settings.inputs.length ++
      " input file(s)" }

theorem run_eq_runChecked {documentation : Path} (accepted : settings.inputProblem? = none)
    (documented : settings.documentation = some documentation) :
    run journal directory settings =
      runChecked (journal.note (startRecord settings)) directory settings documentation := by
  simp only [run, accepted, documented]
  rfl

/-- The documentation directory is made, unless the documentation path is that of a file. -/
def makeDocumentation (volume : Volume) (directory : Location) (documentation : Path) :
    Volume × Option FileFault :=
  if volume.isFile directory documentation then (volume, none)
  else volume.ensureDirectories directory documentation

theorem makesDirectories_of_makeDocumentation {volume made : Volume} {documentation : Path}
    {fault : Option FileFault} (sound : volume.WellFormedAt directory)
    (done : makeDocumentation volume directory documentation = (made, fault)) :
    volume.MakesDirectories made := by
  unfold makeDocumentation at done
  split at done
  next =>
    obtain ⟨rfl, -⟩ := Prod.mk.inj done
    exact .refl _ _ _
  next =>
    have makes := Volume.evolves_ensureDirectories sound documentation
    rwa [done] at makes

/-- A run whose settings are accepted, before front matter is applied and after it. -/
structure Accepted (journal : Journal) (directory : Location) (settings : Settings) where
  documentation : Path
  /-- The settings with front matter in effect. -/
  effective : Settings
  /-- The journal when front matter has been applied. -/
  prepared : Journal
  accepted : settings.inputProblem? = none
  documented : settings.documentation = some documentation
  applied : applyFrontMatter (journal.note (startRecord settings)) directory documentation
    settings = (prepared, .ok effective)
  acceptedAgain : effective.outputProblem? prepared.volume directory = none

namespace Accepted

variable (stages : Accepted journal directory settings)

/-- The file that an input is generated into. -/
def output : Path → Path :=
  outputPath stages.documentation (stages.prepared.volume.isFile directory stages.documentation)

/-- The volume with the documentation directory, or what keeps it from being made. -/
def made : Volume × Option FileFault :=
  makeDocumentation stages.prepared.volume directory stages.documentation

/-- The journal when the documentation directory has been made. -/
def ready : Journal := { stages.prepared with volume := stages.made.1 }

theorem run_eq : run journal directory settings =
    produce stages.prepared directory stages.effective stages.documentation := by
  rw [run_eq_runChecked stages.accepted stages.documented, runChecked, stages.applied]
  simp only [stages.acceptedAgain]

/-- Settings are accepted by notes alone. -/
theorem exists_notes : ∃ records, stages.prepared = journal.notes records := by
  obtain ⟨records, noted⟩ := exists_notes_of_applyFrontMatter stages.applied
  exact ⟨startRecord settings :: records, noted⟩

theorem writes_prepared (sound : journal.volume.WellFormedAt directory) :
    Journal.Writes (fun _ => False) journal stages.prepared := by
  obtain ⟨records, noted⟩ := stages.exists_notes
  rw [noted]
  exact Journal.writes_notes sound.wellFormed records

theorem makesDirectories (sound : journal.volume.WellFormedAt directory) :
    stages.prepared.volume.MakesDirectories stages.made.1 :=
  makesDirectories_of_makeDocumentation ((stages.writes_prepared sound).wellFormedAt sound) rfl

theorem writes_ready (sound : journal.volume.WellFormedAt directory) :
    Journal.Writes (fun _ => False) journal stages.ready :=
  (stages.writes_prepared sound).trans (Journal.writes_of_evolves (stages.makesDirectories sound))

end Accepted

/-- The settings of a run are refused: with the journal of the moment, the settings that are reported
and the wording of the reason. -/
inductive Refused (journal : Journal) (directory : Location) (settings : Settings) :
    Journal → Settings → String → Prop where
  | input {problem : Problem} (found : settings.inputProblem? = some problem) :
      Refused journal directory settings (journal.note (startRecord settings)) settings
        problem.message
  | frontMatter {documentation : Path} {prepared : Journal} {failure : Failure}
      (accepted : settings.inputProblem? = none)
      (documented : settings.documentation = some documentation)
      (applied : applyFrontMatter (journal.note (startRecord settings)) directory documentation
        settings = (prepared, .error failure))
      (kind : failure.kind = .content) :
      Refused journal directory settings prepared settings failure.message
  | output {documentation : Path} {effective : Settings} {prepared : Journal} {problem : Problem}
      (accepted : settings.inputProblem? = none)
      (documented : settings.documentation = some documentation)
      (applied : applyFrontMatter (journal.note (startRecord settings)) directory documentation
        settings = (prepared, .ok effective))
      (found : effective.outputProblem? prepared.volume directory = some problem) :
      Refused journal directory settings prepared effective problem.message

/-- Settings are refused by notes alone. -/
theorem Refused.exists_notes {stopped : Journal} {refused : Settings} {error : String}
    (stops : Refused journal directory settings stopped refused error) :
    ∃ records, stopped = journal.notes records := by
  cases stops with
  | input found => exact ⟨[startRecord settings], rfl⟩
  | frontMatter accepted documented applied kind =>
    obtain ⟨records, noted⟩ := exists_notes_of_applyFrontMatter applied
    exact ⟨startRecord settings :: records, noted⟩
  | output accepted documented applied found =>
    obtain ⟨records, noted⟩ := exists_notes_of_applyFrontMatter applied
    exact ⟨startRecord settings :: records, noted⟩

theorem run_of_refused {stopped : Journal} {refused : Settings} {error : String}
    (stops : Refused journal directory settings stopped refused error) :
    run journal directory settings =
      ((stopAt stopped refused error).1, .ok (stopAt stopped refused error).2) := by
  cases stops with
  | input found =>
    simp only [run, found]
    rfl
  | frontMatter accepted documented applied kind =>
    simp only [run_eq_runChecked accepted documented, runChecked, applied, kind, ↓reduceIte]
  | output accepted documented applied found =>
    simp only [run_eq_runChecked accepted documented, runChecked, applied, found]

/-- A run is stopped because its settings are refused, or by front matter that is not reported, or
its settings are accepted. -/
theorem stops_or_accepted (journal : Journal) (directory : Location) (settings : Settings) :
    (∃ stopped refused error, Refused journal directory settings stopped refused error ∧
      run journal directory settings =
        ((stopAt stopped refused error).1, .ok (stopAt stopped refused error).2)) ∨
    (∃ documentation prepared failure, settings.inputProblem? = none ∧
      settings.documentation = some documentation ∧
      applyFrontMatter (journal.note (startRecord settings)) directory documentation settings =
        (prepared, .error failure) ∧ failure.kind ≠ .content ∧
      run journal directory settings = (prepared, .error failure)) ∨
    Nonempty (Accepted journal directory settings) := by
  cases accepted : settings.inputProblem? with
  | some problem =>
    have stops := @Refused.input journal directory settings problem accepted
    exact Or.inl ⟨_, _, _, stops, run_of_refused stops⟩
  | none =>
    cases documented : settings.documentation with
    | none => simp [Settings.inputProblem?, documented] at accepted
    | some documentation =>
      cases applied : applyFrontMatter (journal.note (startRecord settings)) directory
          documentation settings with
      | mk prepared outcome =>
        cases outcome with
        | error failure =>
          by_cases kind : failure.kind = .content
          · have stops := Refused.frontMatter accepted documented applied kind
            exact Or.inl ⟨_, _, _, stops, run_of_refused stops⟩
          · refine Or.inr (Or.inl ⟨documentation, prepared, failure, rfl, rfl, applied, kind, ?_⟩)
            simp only [run_eq_runChecked accepted documented, runChecked, applied, kind,
              ↓reduceIte]
        | ok effective =>
          cases acceptedAgain : effective.outputProblem? prepared.volume directory with
          | some problem =>
            have stops := Refused.output accepted documented applied acceptedAgain
            exact Or.inl ⟨_, _, _, stops, run_of_refused stops⟩
          | none =>
            exact Or.inr (Or.inr ⟨⟨documentation, effective, prepared, accepted, documented,
              applied, acceptedAgain⟩⟩)

/-- A run that has worked through all its inputs. -/
structure GeneratedAll (journal : Journal) (directory : Location) (settings : Settings) where
  documentation : Path
  /-- The settings with front matter in effect. -/
  effective : Settings
  /-- The journal when front matter has been applied. -/
  prepared : Journal
  /-- The volume with the documentation directory. -/
  made : Volume
  progress : Progress
  accepted : settings.inputProblem? = none
  documented : settings.documentation = some documentation
  applied : applyFrontMatter (journal.note (startRecord settings)) directory documentation
    settings = (prepared, .ok effective)
  acceptedAgain : effective.outputProblem? prepared.volume directory = none
  madeDirectory : makeDocumentation prepared.volume directory documentation = (made, none)
  generated : generateAll directory effective.policy
    (outputPath documentation (prepared.volume.isFile directory documentation))
    { journal := { prepared with volume := made } } effective.inputs = (progress, none)

/-! ## The end of a run -/

theorem not_success_of_failWith {final : Journal} {started result : RunResult} {failure : Failure}
    (unfinished : started.success = false)
    (failed : failWith journal started failure = (final, .ok result)) : result.success = false := by
  unfold failWith at failed
  split at failed
  next => simp at failed
  next =>
    obtain rfl := Except.ok.inj (congrArg Prod.snd failed)
    exact unfinished

/-- What is told about a merge that is done. -/
def mergedRecord (output : Path) : LogRecord :=
  { level := .info, source := .run, message := "Merged Markdown written to " ++ output.text }

/-- After generation nothing is done, or the files are merged into an output, which is noted. -/
theorem cases_of_mergeGenerated {final : Journal} {documentation : Path} {progress : Progress}
    {merged : Option Path}
    (done : mergeGenerated directory settings documentation progress = (final, .ok merged)) :
    (merged = none ∧ final = progress.journal ∧
        ¬ (settings.mergesFiles ∧ settings.output.isSome)) ∨
      ∃ output after, merged = some output ∧ settings.mergesFiles ∧
        settings.output = some output ∧
        Collection.merge progress.journal directory documentation progress.generated output =
          (after, none) ∧ final = after.note (mergedRecord output) := by
  unfold mergeGenerated at done
  split at done
  next output merges named =>
    split at done
    next => simp at done
    next after mergedTo =>
      obtain ⟨rfl, same⟩ := Prod.mk.inj done
      exact Or.inr ⟨output, after, (Except.ok.inj same).symm, merges, named, mergedTo, rfl⟩
  next apart =>
    obtain ⟨rfl, same⟩ := Prod.mk.inj done
    refine Or.inl ⟨(Except.ok.inj same).symm, rfl, fun ⟨merges, named⟩ => ?_⟩
    obtain ⟨output, named⟩ := Option.isSome_iff_exists.mp named
    exact apart output merges named

/-- A merge at the end fails because of a file, or because there is nothing to merge. -/
theorem failure_of_mergeGenerated {final : Journal} {documentation : Path} {progress : Progress}
    {failure : Failure}
    (failed : mergeGenerated directory settings documentation progress = (final, .error failure)) :
    failure = .nothingToMerge ∨ ∃ fault, failure = .file fault := by
  unfold mergeGenerated at failed
  split at failed
  next output merges named =>
    split at failed
    next after stopped merged =>
      obtain rfl := Except.error.inj (congrArg Prod.snd failed)
      exact Collection.failure_of_merge merged
    next => cases congrArg Prod.snd failed
  next => cases congrArg Prod.snd failed

section Produce

variable {prepared : Journal} {effective : Settings} {documentation : Path} {made : Volume}

/-- Without a documentation directory, a run fails before its first input. -/
theorem produce_of_not_made {fault : FileFault}
    (unmade : makeDocumentation prepared.volume directory documentation = (made, some fault)) :
    produce prepared directory effective documentation =
      failWith { prepared with volume := made } { settings := effective } (.file fault) := by
  unfold makeDocumentation at unmade
  simp only [produce, unmade]

variable (madeDirectory : makeDocumentation prepared.volume directory documentation = (made, none))

include madeDirectory

/-- An input that cannot be worked through stops a run. -/
theorem produce_of_stopped {progress : Progress} {failure : Failure}
    (stopped : generateAll directory effective.policy
      (outputPath documentation (prepared.volume.isFile directory documentation))
      { journal := { prepared with volume := made } } effective.inputs = (progress, some failure)) :
    produce prepared directory effective documentation = failWith progress.journal
      { settings := effective, generated := progress.generated, warnings := progress.warnings }
      failure := by
  unfold makeDocumentation at madeDirectory
  simp only [produce, madeDirectory, stopped]

variable {progress : Progress} (generated : generateAll directory effective.policy
  (outputPath documentation (prepared.volume.isFile directory documentation))
  { journal := { prepared with volume := made } } effective.inputs = (progress, none))

include generated

theorem produce_of_not_merged {after : Journal} {failure : Failure}
    (failed : mergeGenerated directory effective documentation progress = (after, .error failure)) :
    produce prepared directory effective documentation = failWith after
      { settings := effective, generated := progress.generated, warnings := progress.warnings }
      failure := by
  unfold makeDocumentation at madeDirectory
  simp only [produce, madeDirectory, generated, failed]

/-- A run that has worked through its inputs succeeds if it can merge. -/
theorem produce_of_merged {after : Journal} {merged : Option Path}
    (done : mergeGenerated directory effective documentation progress = (after, .ok merged)) :
    produce prepared directory effective documentation = (after, .ok
      { settings := effective, generated := progress.generated, warnings := progress.warnings
        merged, success := true }) := by
  unfold makeDocumentation at madeDirectory
  simp only [produce, madeDirectory, generated, done]

end Produce

/-- What has been written without an error has been generated from all inputs, and merged. -/
theorem generated_of_produce {prepared final : Journal} {effective : Settings}
    {documentation : Path} {result : RunResult}
    (produced : produce prepared directory effective documentation = (final, .ok result))
    (succeeded : result.success) :
    ∃ made progress,
      makeDocumentation prepared.volume directory documentation = (made, none) ∧
      generateAll directory effective.policy
        (outputPath documentation (prepared.volume.isFile directory documentation))
        { journal := { prepared with volume := made } } effective.inputs = (progress, none) ∧
      mergeGenerated directory effective documentation progress = (final, .ok result.merged) ∧
      result.settings = effective ∧ result.generated = progress.generated := by
  have notFailed {stopped : Journal} {started : RunResult} {failure : Failure}
      (unfinished : started.success = false) :
      failWith stopped started failure ≠ (final, .ok result) := by
    intro failed
    rw [not_success_of_failWith unfinished failed] at succeeded
    cases succeeded
  cases madeDirectory : makeDocumentation prepared.volume directory documentation with
  | mk made fault =>
    cases fault with
    | some fault => exact absurd (produce_of_not_made madeDirectory ▸ produced) (notFailed rfl)
    | none =>
      cases worked : generateAll directory effective.policy
          (outputPath documentation (prepared.volume.isFile directory documentation))
          { journal := { prepared with volume := made } } effective.inputs with
      | mk progress failure =>
        cases failure with
        | some failure =>
          exact absurd (produce_of_stopped madeDirectory worked ▸ produced) (notFailed rfl)
        | none =>
          cases mergedTo : mergeGenerated directory effective documentation progress with
          | mk after outcome =>
            cases outcome with
            | error failure =>
              exact absurd (produce_of_not_merged madeDirectory worked mergedTo ▸ produced)
                (notFailed rfl)
            | ok merged =>
              rw [produce_of_merged madeDirectory worked mergedTo] at produced
              obtain ⟨rfl, same⟩ := Prod.mk.inj produced
              obtain rfl := Except.ok.inj same
              exact ⟨made, progress, rfl, worked, mergedTo, rfl, rfl⟩

/-- A run without an error has worked through its inputs, and then it has merged. -/
theorem generatedAll_of_run {final : Journal} {result : RunResult}
    (ran : run journal directory settings = (final, .ok result)) (succeeded : result.success) :
    ∃ stages : GeneratedAll journal directory settings,
      mergeGenerated directory stages.effective stages.documentation stages.progress =
        (final, .ok result.merged) ∧
      result.settings = stages.effective ∧ result.generated = stages.progress.generated := by
  rcases stops_or_accepted journal directory settings with
    ⟨_, _, _, -, same⟩ | ⟨_, _, _, -, -, -, -, same⟩ | ⟨⟨stages⟩⟩
  · obtain rfl := Except.ok.inj (congrArg Prod.snd (same.symm.trans ran))
    cases succeeded
  · cases congrArg Prod.snd (same.symm.trans ran)
  · rw [stages.run_eq] at ran
    obtain ⟨made, progress, madeDirectory, worked, merged, kept, listed⟩ :=
      generated_of_produce ran succeeded
    exact ⟨⟨stages.documentation, stages.effective, stages.prepared, made, progress,
      stages.accepted, stages.documented, stages.applied, stages.acceptedAgain, madeDirectory,
      worked⟩, merged, kept, listed⟩

/-! ## Before the merge -/

namespace GeneratedAll

variable (stages : GeneratedAll journal directory settings)
  (sound : journal.volume.WellFormedAt directory)

def toAccepted : Accepted journal directory settings :=
  ⟨stages.documentation, stages.effective, stages.prepared, stages.accepted, stages.documented,
    stages.applied, stages.acceptedAgain⟩

theorem made_toAccepted : stages.toAccepted.made = (stages.made, none) := stages.madeDirectory

/-- The journal when the documentation directory has been made. -/
def ready : Journal := { stages.prepared with volume := stages.made }

theorem ready_toAccepted : stages.toAccepted.ready = stages.ready := by
  rw [Accepted.ready, made_toAccepted]
  rfl

include sound

theorem writes_ready : Journal.Writes (fun _ => False) journal stages.ready :=
  stages.ready_toAccepted ▸ stages.toAccepted.writes_ready sound

theorem extends_ready : Progress.Extends directory { journal := stages.ready } stages.progress :=
  extends_of_generateAll ((stages.writes_ready sound).wellFormedAt sound) stages.generated

/-- Whatever has been written before the merge has been generated. -/
theorem writes : Journal.Writes (· ∈ stages.progress.generated.map (·.resolve directory))
    journal stages.progress.journal := by
  obtain ⟨fresh, listed, generates⟩ := stages.extends_ready sound
  obtain rfl : stages.progress.generated = fresh := listed
  exact ((stages.writes_ready sound).mono fun _ => False.elim).trans generates

/-- The documentation path means a file that was there, or a directory when all is generated. -/
theorem get?_documentation :
    (∃ content, journal.volume.get? (stages.documentation.resolve directory) =
        some (.file content)) ∨
      stages.progress.journal.volume.get? (stages.documentation.resolve directory) =
        some .directory := by
  have prepares := stages.toAccepted.writes_prepared sound
  have done := stages.madeDirectory
  unfold makeDocumentation at done
  split at done
  next isFile =>
    -- The notes before have made no file, so it has been there from the start.
    left
    unfold Volume.isFile at isFile
    split at isFile
    next content status =>
      exact prepares.volume.fresh _ content id (Volume.get?_of_status status)
    next => cases isFile
  next =>
    right
    obtain ⟨_, -, generates⟩ := stages.extends_ready sound
    exact generates.volume.directories _
      (Volume.get?_of_ensureDirectories (prepares.wellFormedAt sound) done)

end GeneratedAll

end MemberDocs.Generation
