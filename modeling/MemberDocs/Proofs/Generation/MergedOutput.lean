import MemberDocs.Proofs.Collection.Merge
import MemberDocs.Proofs.Generation.Stages

/-! # The output of a run that merges

The merge looks for Markdown files when the run has already written its own, yet those that it takes
for older ones are the files that were there before, with the contents that they had then
(`merged_output_of_run`). Only the log file, which grows while the run goes on, can hold more.
-/

namespace MemberDocs.Generation

open Collection (documentationFiles existingSources joinContents leadsToMarkdown)

variable {journal final : Journal} {directory : Location} {settings : Settings}
  {result : RunResult}

/-- The Markdown files of a documentation path, without those at some locations. -/
def filesApart (volume : Volume) (directory : Location) (documentation : Path)
    (written : List Location) : List Path :=
  (documentationFiles volume directory documentation).filter fun path =>
    path.resolve directory ∉ written

theorem map_resolve_filesApart (volume : Volume) (directory : Location) (documentation : Path)
    (written : List Location) :
    (filesApart volume directory documentation written).map (·.resolve directory) =
      ((documentationFiles volume directory documentation).map (·.resolve directory)).filter
        (· ∉ written) := by
  rw [List.filter_map]
  rfl

/-- Each of the paths means a file with its content, as far as it is not the log file. -/
def Journal.Hold (journal : Journal) (directory : Location) :
    List Path → List (List UInt8) → Prop :=
  List.Forall₂ fun path content => ¬ journal.LogsTo (path.resolve directory) →
    journal.volume.get? (path.resolve directory) = some (.file content)

/-- Files that are not written have held what they hold. -/
theorem Journal.Writes.hold {written : Location → Prop} {first second : Journal}
    {paths : List Path} {contents : List (List UInt8)} (writes : Journal.Writes written first second)
    (apart : ∀ path ∈ paths, ¬ written (path.resolve directory))
    (held : Collection.Hold second.volume directory paths contents) :
    first.Hold directory paths contents := by
  induction held with
  | nil => exact .nil
  | cons there rest ih =>
    refine .cons (fun quiet => ?_) (ih fun path member => apart path (List.mem_cons_of_mem _ member))
    exact writes.get?_of_not_written (apart _ List.mem_cons_self) quiet there

/-- A run that merges has merged what it has generated, and notes it. -/
theorem merge_of_mergeGenerated {documentation output : Path} {progress : Progress}
    {merged : Option Path} (merges : settings.mergesFiles) (named : settings.output = some output)
    (done : mergeGenerated directory settings documentation progress = (final, .ok merged)) :
    ∃ after record,
      Collection.merge progress.journal directory documentation progress.generated output =
        (after, none) ∧ final = after.note record ∧ merged = some output := by
  rcases cases_of_mergeGenerated done with ⟨-, -, apart⟩ | ⟨other, after, rfl, -, same, mergedTo, rfl⟩
  · exact absurd ⟨merges, by simp [named]⟩ apart
  · obtain rfl : other = output := Option.some.inj (same.symm.trans named)
    exact ⟨after, _, mergedTo, rfl, rfl⟩

/-- Settings that are accepted name an output if files are merged. -/
theorem exists_output_of_accepted {volume : Volume} (merges : settings.mergesFiles)
    (accepted : settings.outputProblem? volume directory = none) :
    ∃ output, settings.output = some output := by
  unfold Settings.outputProblem? at accepted
  split at accepted
  next => cases accepted
  next named =>
    simp only [merges, Bool.true_and, Option.isNone_iff_eq_none] at named
    exact Option.ne_none_iff_exists'.mp named

/-- The merge takes for older files those that were there before the run. -/
theorem GeneratedAll.existingSources_eq (stages : GeneratedAll journal directory settings)
    (sound : journal.volume.WellFormedAt directory) (output : Path) :
    existingSources directory (documentationFiles stages.progress.journal.volume directory
        stages.documentation) stages.progress.generated output =
      filesApart journal.volume directory stages.documentation
        ((output :: stages.progress.generated).map (·.resolve directory)) := by
  rw [Collection.existingSources_eq_filter]
  exact Collection.filter_documentationFiles_of_evolves (stages.writes sound).volume
    sound.wellFormed (stages.get?_documentation sound)
    fun location (kept : decide (location ∉ (output :: stages.progress.generated).map
      (·.resolve directory))) hit => by simp_all

/-- If a run succeeds and merges, its output holds the contents that the files of the documentation
path had before the run, each once and in the order of discovery, without the output and the
generated files, and then those that the generated files had when all were generated. -/
theorem merged_output_of_run (sound : journal.volume.WellFormedAt directory)
    (ran : run journal directory settings = (final, .ok result)) (succeeded : result.success)
    (merges : result.settings.mergesFiles) :
    ∃ (stages : GeneratedAll journal directory settings) (output : Path)
        (kept made : List (List UInt8)),
      result.generated = stages.progress.generated ∧ settings.output = some output ∧
      result.merged = some output ∧
      let written := (output :: result.generated).map (·.resolve directory)
      let older := filesApart journal.volume directory stages.documentation written
      (∀ discovered, Collection.discover journal.volume directory stages.documentation =
        .ok discovered → older = discovered.filter (·.resolve directory ∉ written)) ∧
      (older.map (·.resolve directory)).Nodup ∧
      (∀ location, location ∈ older.map (·.resolve directory) ↔
        location ∉ written ∧ (∃ content, journal.volume.get? location = some (.file content)) ∧
          (location = stages.documentation.resolve directory ∨ ∃ names, leadsToMarkdown names ∧
            location = stages.documentation.resolve directory ++ names)) ∧
      journal.Hold directory older kept ∧
      stages.progress.journal.Hold directory result.generated made ∧
      (¬ journal.LogsTo (output.resolve directory) →
        final.volume.get? (output.resolve directory) =
          some (.file (joinContents (kept ++ made)))) := by
  obtain ⟨stages, merging, same, listed⟩ := generatedAll_of_run ran succeeded
  rw [same] at merges
  obtain ⟨output, named⟩ := exists_output_of_accepted merges stages.acceptedAgain
  obtain ⟨after, record, merged, rfl, mergedTo⟩ := merge_of_mergeGenerated merges named merging
  have writes := stages.writes sound
  have soundLater := writes.wellFormedAt sound
  obtain ⟨discovered, noted, contents, found, notes, held, puts, holds⟩ :=
    Collection.merge_spec soundLater merged
  obtain rfl := Collection.eq_documentationFiles_of_discover found
  -- The files that are read as older ones are known before the run by where they are.
  rw [stages.existingSources_eq sound] at held
  obtain ⟨kept, made, rfl, heldOlder, heldMade⟩ := held.split
  refine ⟨stages, output, kept, made, listed,
    (paths_of_applyFrontMatter stages.applied).2.2 ▸ named, mergedTo, ?_⟩
  rw [listed]
  refine ⟨?_, ?_, ?_, ?_, ?_, ?_⟩
  · intro before foundBefore
    rw [Collection.eq_documentationFiles_of_discover foundBefore]
    rfl
  · rw [map_resolve_filesApart]
    exact (Collection.nodup_documentationFiles sound.wellFormed _ _).filter _
  · intro location
    rw [map_resolve_filesApart, List.mem_filter,
      Collection.mem_documentationFiles_iff sound.wellFormed, and_comm, decide_eq_true_iff]
  · refine Journal.Writes.hold (writes.trans (notes.mono fun _ => False.elim)) ?_ heldOlder
    intro path older generated
    have apart := of_decide_eq_true (List.mem_filter.mp older).2
    exact apart (List.mem_cons_of_mem _ generated)
  · exact notes.hold (fun _ _ => id) heldMade
  · -- The note on the merge comes after the output, which only a log file there would see.
    intro quiet
    have noted := Journal.writes_note (puts.wellFormedAt (notes.wellFormedAt soundLater)).wellFormed
      record
    refine noted.get?_of_apart id ?_ holds
    rwa [puts.logsTo_iff, notes.logsTo_iff, writes.logsTo_iff]

/-- A documentation directory with one file, and an input. -/
def sampleVolume : Volume :=
  ⟨[(["docs"], .directory), (["docs", "guide.md"], .file (Text.encodeUtf8 "Read me")),
    (["api.xml"], .file (Text.encodeUtf8 "<doc/>"))]⟩

/-- The input is generated into the directory, and merged into a file there. -/
def sampleSettings : Settings :=
  { inputs := [⟨.relative, ["api.xml"]⟩], documentation := some ⟨.relative, ["docs"]⟩
    mergesFiles := true, output := some ⟨.relative, ["docs", "all.md"]⟩ }

theorem sample_is_merged :
    ∃ generated, (run { volume := sampleVolume } [] sampleSettings).1.volume.get? ["docs", "all.md"] =
      some (.file (joinContents [Text.encodeUtf8 "Read me", generated])) := by
  have sound : sampleVolume.WellFormedAt [] := ⟨⟨by decide, by decide, by decide⟩, rfl⟩
  have evaluated : (run { volume := sampleVolume } [] sampleSettings).2.toOption =
      some { settings := sampleSettings, generated := [⟨.relative, ["docs", "api.md"]⟩]
             merged := some ⟨.relative, ["docs", "all.md"]⟩, success := true } := by
    simp only [run, runChecked, produce, mergeGenerated, Collection.merge, Collection.findExisting,
      Collection.discover, Collection.markdownBelow, Collection.mergeSort_eq_insertionSort]
    decide +kernel
  obtain ⟨stages, output, kept, made, -, named, -, -, -, -, heldOlder, heldMade, holds⟩ :=
    merged_output_of_run sound (Prod.ext rfl (toOption_eq_some_iff.mp evaluated)) rfl rfl
  obtain rfl := Option.some.inj named
  have unlogged : ∀ location, ¬ Journal.LogsTo { volume := sampleVolume } location :=
    Journal.not_logsTo rfl
  have older : filesApart sampleVolume [] stages.documentation
      [["docs", "all.md"], ["docs", "api.md"]] = [⟨.relative, ["docs", "guide.md"]⟩] := by
    rw [← Option.some.inj stages.documented]
    decide +kernel
  have heldGuide : Journal.Hold { volume := sampleVolume } []
      [⟨.relative, ["docs", "guide.md"]⟩] kept := older ▸ heldOlder
  cases heldGuide with
  | cons guide others =>
    cases others
    cases heldMade with
    | cons api others =>
      cases others
      have there : sampleVolume.get? ["docs", "guide.md"] =
        some (.file (Text.encodeUtf8 "Read me")) := rfl
      obtain rfl := FileEntry.file.inj (Option.some.inj (there.symm.trans (guide (unlogged _))))
      exact ⟨_, holds (unlogged _)⟩

end MemberDocs.Generation
