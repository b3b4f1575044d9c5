import MemberDocs.Proofs.Generation.Renderings
import MemberDocs.Proofs.Volume.Texts

/-! # The files that a run reports

A run that succeeds reports the files that it has written, and each of them is there when it ends
(`isFile_of_success`). Their paths are made of those of the settings, so if these can be read from their
texts, so can they (`isReadable_of_success`).
-/

namespace MemberDocs.Generation

/-- All paths of the settings are read from their texts. -/
structure Settings.IsReadable (settings : Settings) : Prop where
  inputs : ∀ path ∈ settings.inputs, path.IsReadable
  documentation : ∀ path ∈ settings.documentation, path.IsReadable
  output : ∀ path ∈ settings.output, path.IsReadable

variable {journal final : Journal} {directory : Location} {settings : Settings}
  {result : RunResult} {path : Path}

/-! ## Files -/

/-- A note takes no file away. -/
theorem Journal.isFile_note (wellFormed : journal.volume.WellFormed) (record : LogRecord)
    (isFile : journal.volume.isFile directory path) :
    (journal.note record).volume.isFile directory path :=
  (Journal.writes_note wellFormed record).volume.isFile isFile

/-- The files that inputs have been generated into are there. -/
theorem Works.isFile {policy : TagPolicy} {output : Path → Path} {first last : Journal}
    {worked : List (Path × Completion)} (works : Works directory policy output first worked last)
    (sound : first.volume.WellFormedAt directory)
    (among : path ∈ generatedPaths output worked) : last.volume.isFile directory path := by
  induction works with
  | nil => cases among
  | @cons before next last source completion rest step others ih =>
    have soundNext := (step.writes sound).wellFormedAt sound
    cases step with
    | skipped read converted allowed => exact ih soundNext among
    | @generated bytes markdown volume read converted written =>
      rcases List.mem_cons.mp among with rfl | later
      · have soundWritten := (Volume.evolves_of_write sound written).1.wellFormedAt sound
        have noted := @Journal.isFile_note { before with volume } directory _ soundWritten.wellFormed
          (generatedRecord source (output source)) (Volume.isFile_of_write sound written)
        exact (others.writes soundNext).volume.isFile noted
      · exact ih soundNext later

/-- The file that a merge has been written to is there. -/
theorem isFile_of_mergeGenerated {documentation : Path} {progress : Progress}
    {merged : Option Path} (sound : progress.journal.volume.WellFormedAt directory)
    (done : mergeGenerated directory settings documentation progress = (final, .ok merged))
    (reported : path ∈ merged) : final.volume.isFile directory path := by
  rcases cases_of_mergeGenerated done with ⟨rfl, -⟩ | ⟨output, after, rfl, -, -, mergedTo, rfl⟩
  · cases reported
  · obtain rfl := Option.some.inj reported
    obtain ⟨existing, volume, -, merging, rfl⟩ := Collection.merge_eq_iff.mp mergedTo
    obtain ⟨contents, made, -, ensured, written⟩ := Collection.writeMerged_eq_iff.mp merging
    have noted := (Journal.writes_note sound.wellFormed
      (Collection.mergeRecord existing progress.generated output)).wellFormedAt sound
    have soundMade : made.WellFormedAt directory := by
      have evolves := Volume.evolves_ensureDirectories noted output.parent
      rw [ensured] at evolves
      exact evolves.wellFormedAt noted
    have soundWritten := (Volume.evolves_of_write soundMade written).1.wellFormedAt soundMade
    exact Journal.isFile_note soundWritten.wellFormed (mergedRecord output)
      (Volume.isFile_of_write soundMade written)

/-- **The files that are reported are there.** -/
theorem isFile_of_success (sound : journal.volume.WellFormedAt directory)
    (ran : run journal directory settings = (final, .ok result)) (succeeded : result.success)
    (reported : path ∈ result.generated ++ result.merged.toList) :
    final.volume.isFile directory path := by
  obtain ⟨stages, worked, reached, -, works, -, done, listed⟩ := works_of_success ran succeeded
  have generated : result.generated = generatedPaths stages.output worked := by rw [listed]; rfl
  have soundReady := (stages.writes_ready sound).wellFormedAt sound
  have soundReached := (works.writes soundReady).wellFormedAt soundReady
  rcases List.mem_append.mp reported with made | merged
  · rw [generated] at made
    have there := works.isFile soundReady made
    exact (writes_of_mergeGenerated soundReached done).volume.isFile there
  · exact isFile_of_mergeGenerated soundReached done (Option.mem_toList.mp merged)

/-- A run that succeeds has merged exactly if it was to with the settings in effect. -/
theorem merged_iff_of_success (ran : run journal directory settings = (final, .ok result))
    (succeeded : result.success) (path : Path) :
    result.merged = some path ↔
      result.settings.mergesFiles ∧ result.settings.output = some path := by
  obtain ⟨stages, worked, reached, -, -, -, done, listed⟩ := works_of_success ran succeeded
  have effective : result.settings = stages.effective := by rw [listed]; rfl
  rw [effective]
  exact merged_iff_of_mergeGenerated done path

/-! ## Paths -/

/-- A file that an input is generated into is named after it, or the documentation path is its path. -/
theorem isReadable_outputPath {documentation source : Path} (documented : documentation.IsReadable)
    (listed : source.IsReadable) (isFile : Bool) :
    (outputPath documentation isFile source).IsReadable := by
  unfold outputPath
  split
  next => exact documented
  next => exact documented.child listed.suffixed_stem

/-- The paths that are reported are read from their texts if those of the settings are. -/
theorem isReadable_of_success (readable : settings.IsReadable)
    (ran : run journal directory settings = (final, .ok result)) (succeeded : result.success)
    (reported : path ∈ result.generated ++ result.merged.toList) : path.IsReadable := by
  obtain ⟨stages, worked, reached, -, works, inputs, done, listed⟩ :=
    works_of_success ran succeeded
  have generated : result.generated = generatedPaths stages.output worked := by rw [listed]; rfl
  rcases List.mem_append.mp reported with made | merged
  · rw [generated] at made
    obtain ⟨source, among, rfl⟩ := exists_source_of_mem_generatedPaths made
    exact isReadable_outputPath (readable.documentation _ stages.documented)
      (readable.inputs source (inputs ▸ among)) _
  · obtain ⟨-, named⟩ := (merged_iff_of_mergeGenerated done path).mp (Option.mem_toList.mp merged)
    exact readable.output path (stages.effective_output ▸ named)

end MemberDocs.Generation
