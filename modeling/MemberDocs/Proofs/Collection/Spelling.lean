import MemberDocs.Proofs.Collection.Outcomes
import MemberDocs.Proofs.Volume.Spelling

/-! # Merging under other spellings

A merge goes by files and not by the paths that are written for them: with other spellings of its paths
it does the same, or fails in the same way (`merging_ignores_spelling`). The files that are discovered
are the same ones in the same order (`discover_respelled`), and those that are left out are known by
the location that they mean (`existingSources_respelled`).
-/

namespace MemberDocs

namespace Generation

/-- Two failures say the same of two spellings of a path. -/
inductive Failure.Alike (directory : Location) : Failure → Failure → Prop
  | file {first second : FileFault} (alike : first.Alike directory second) :
      Alike directory (.file first) (.file second)
  | nothingToMerge : Alike directory .nothingToMerge .nothingToMerge

end Generation

namespace Collection

open Generation

variable {volume : Volume} {directory : Location} {documentation documentation' output output' : Path}
  {generated generated' : List Path}

/-! ## The files of the documentation -/

section Discovered

variable (sound : volume.WellFormedAt directory) (free : volume.FreeOfNull)

include sound free

/-- A file that is listed below a directory is in a directory. -/
theorem isDirectory_parent_of_listed (there : volume.isDirectory directory documentation)
    {names : List String}
    (listed : names ∈ markdownNames volume (documentation.resolve directory)) :
    volume.isDirectory directory
      (⟨documentation.anchor, documentation.parts ++ names⟩ : Path).parent := by
  obtain ⟨markdown, content, held⟩ := (mem_markdownNames_iff sound.wellFormed).mp listed
  cases names using List.reverseRecOn with
  | nil => cases markdown
  | append_singleton above name =>
    have inside := sound.wellFormed.get?_dropLast held
    rw [← List.append_assoc, List.dropLast_concat] at inside
    rw [Path.parent, ← List.append_assoc, List.dropLast_concat]
    exact Volume.isDirectory_append sound.wellFormed free there inside

/-- The same files are listed of two spellings of a documentation path, in the same order. -/
theorem documentationFiles_respelled {entry : FileEntry}
    (respelled : volume.Respelled directory documentation documentation')
    (found : volume.status directory documentation = some entry) :
    List.Forall₂ (volume.Respelled directory)
      (documentationFiles volume directory documentation)
      (documentationFiles volume directory documentation') := by
  have found' := (respelled.status free sound).symm.trans found
  have there := Volume.get?_of_status found
  have there' := Volume.get?_of_status found'
  cases entry with
  | file content =>
    rw [documentationFiles_of_file there, documentationFiles_of_file there']
    exact .cons respelled .nil
  | directory =>
    rw [documentationFiles_of_not_file (by simp [there]),
      documentationFiles_of_not_file (by simp [there']), ← respelled.same]
    refine List.forall₂_map_left_iff.mpr (List.forall₂_map_right_iff.mpr ?_)
    refine List.forall₂_same.mpr fun names listed => ⟨?_, ?_, ?_⟩
    · exact isDirectory_parent_of_listed sound free (decide_eq_true found) listed
    · exact isDirectory_parent_of_listed sound free (decide_eq_true found')
        (respelled.same ▸ listed)
    · rw [resolve_of_mem_markdownNames sound.wellFormed listed,
        resolve_of_mem_markdownNames sound.wellFormed (respelled.same ▸ listed), respelled.same]

theorem discover_respelled (respelled : volume.Respelled directory documentation documentation') :
    OutcomesAlike directory (List.Forall₂ (volume.Respelled directory))
      (discover volume directory documentation) (discover volume directory documentation') := by
  have status := respelled.status free sound
  cases found : volume.status directory documentation with
  | none =>
    have missing : discover volume directory documentation =
        .error (.noDocumentation documentation.text) := by simp [discover, found]
    have missing' : discover volume directory documentation' =
        .error (.noDocumentation documentation'.text) := by simp [discover, ← status, found]
    rw [missing, missing']
    exact .error (.noDocumentation respelled.same)
  | some entry =>
    have lists := documentationFiles_respelled sound free respelled found
    rw [discover_eq_ok_iff.mpr ⟨⟨entry, found⟩, rfl⟩,
      discover_eq_ok_iff.mpr ⟨⟨entry, status.symm.trans found⟩, rfl⟩]
    exact .ok lists

end Discovered

/-! ## The files of a merge -/

theorem map_resolve_respelled
    (respelled : List.Forall₂ (volume.Respelled directory) generated generated') :
    generated.map (·.resolve directory) = generated'.map (·.resolve directory) := by
  induction respelled with
  | nil => rfl
  | cons first _ ih => rw [List.map_cons, List.map_cons, first.same, ih]

/-- What is left out goes by locations. -/
theorem existingSources_respelled {discovered discovered' : List Path}
    (found : List.Forall₂ (volume.Respelled directory) discovered discovered')
    (outputs : volume.Respelled directory output output')
    (each : List.Forall₂ (volume.Respelled directory) generated generated') :
    List.Forall₂ (volume.Respelled directory)
      (existingSources directory discovered generated output)
      (existingSources directory discovered' generated' output') := by
  have known : (output :: generated).map (·.resolve directory) =
      (output' :: generated').map (·.resolve directory) :=
    map_resolve_respelled (.cons outputs each)
  unfold existingSources
  rw [known]
  refine List.rel_filter ?_ found
  intro first second respelled
  simp only [respelled.same]

theorem any_hasNull_respelled (free : volume.FreeOfNull)
    (each : List.Forall₂ (volume.Respelled directory) generated generated') :
    generated.any Path.hasNull = generated'.any Path.hasNull := by
  induction each with
  | nil => rfl
  | cons first _ ih => rw [List.any_cons, List.any_cons, first.hasNull free, ih]

/-- The files that were there before are found alike. -/
theorem findExisting_respelled (sound : volume.WellFormedAt directory) (free : volume.FreeOfNull)
    (documentations : volume.Respelled directory documentation documentation')
    (each : List.Forall₂ (volume.Respelled directory) generated generated')
    (outputs : volume.Respelled directory output output') :
    (∃ existing existing',
      findExisting volume directory documentation generated output = .ok existing ∧
      findExisting volume directory documentation' generated' output' = .ok existing' ∧
      List.Forall₂ (volume.Respelled directory) existing existing') ∨
    ∃ failure failure',
      findExisting volume directory documentation generated output = .error failure ∧
      findExisting volume directory documentation' generated' output' = .error failure' ∧
      failure.Alike directory failure' := by
  have nulls := any_hasNull_respelled free (.cons outputs each)
  have discovers := discover_respelled sound free documentations
  unfold findExisting
  rw [← nulls]
  split
  next => exact Or.inr ⟨_, _, rfl, rfl, .file .nullInPath⟩
  next =>
    generalize discover volume directory documentation = discovered,
      discover volume directory documentation' = discovered' at discovers ⊢
    cases discovers with
    | error alike => exact Or.inr ⟨_, _, rfl, rfl, .file alike⟩
    | ok lists =>
      have existing := existingSources_respelled lists outputs each
      have emptiness {first second : List Path}
          (related : List.Forall₂ (volume.Respelled directory) first second) :
          first.isEmpty = second.isEmpty := by
        cases related <;> rfl
      dsimp only
      rw [← emptiness existing, ← emptiness each]
      split
      next => exact Or.inr ⟨_, _, rfl, rfl, .nothingToMerge⟩
      next => exact Or.inl ⟨_, _, rfl, rfl, existing⟩

/-- The sources are read and joined, and the output is written, alike. -/
theorem writeMerged_respelled (sound : volume.WellFormedAt directory) (free : volume.FreeOfNull)
    {sources sources' : List Path}
    (each : List.Forall₂ (volume.Respelled directory) sources sources')
    (outputs : volume.Respelled directory output output') :
    (∃ after, writeMerged volume directory sources output = (after, none) ∧
      writeMerged volume directory sources' output' = (after, none)) ∨
    ∃ fault fault', writeMerged volume directory sources output = (volume, some fault) ∧
      writeMerged volume directory sources' output' = (volume, some fault') ∧
      fault.Alike directory fault' := by
  have reads := OutcomesAlike.mapM (each.imp fun _ _ one => one.read free sound)
  unfold writeMerged
  rw [Volume.ensureDirectories_of_isDirectory sound outputs.firstAbove,
    Volume.ensureDirectories_of_isDirectory sound outputs.secondAbove]
  generalize sources.mapM (volume.read directory) = contents,
    sources'.mapM (volume.read directory) = contents' at reads ⊢
  cases reads with
  | error alike => exact Or.inr ⟨_, _, rfl, rfl, alike⟩
  | @ok contents contents' same =>
    obtain rfl : contents = contents' := List.forall₂_eq_eq_eq ▸ same
    have writes := outputs.write free (joinContents contents)
    dsimp only
    generalize volume.write directory output (joinContents contents) = written,
      volume.write directory output' (joinContents contents) = written' at writes ⊢
    cases writes with
    | error alike => exact Or.inr ⟨_, _, rfl, rfl, alike⟩
    | ok after =>
      subst after
      exact Or.inl ⟨_, rfl, rfl⟩

/-! ## Merging -/

/-- **Merging goes by files.** Where the directories that its paths name are there, a merge under other
spellings of the same places is done as well, and both write the same to the same file, or both fail with
the same to say and change nothing. -/
theorem merging_ignores_spelling (sound : volume.WellFormedAt directory) (free : volume.FreeOfNull)
    (documentations : volume.Respelled directory documentation documentation')
    (each : List.Forall₂ (volume.Respelled directory) generated generated')
    (outputs : volume.Respelled directory output output') :
    (∃ after after' content,
      merge { volume } directory documentation generated output = (after, none) ∧
      merge { volume } directory documentation' generated' output' = (after', none) ∧
      after.volume = after'.volume ∧
      after.volume.get? (output.resolve directory) = some (.file content)) ∨
    ∃ after after' failure failure',
      merge { volume } directory documentation generated output = (after, some failure) ∧
      merge { volume } directory documentation' generated' output' = (after', some failure') ∧
      failure.Alike directory failure' ∧ after.volume = volume ∧ after'.volume = volume := by
  unfold merge
  rcases findExisting_respelled sound free documentations each outputs with
    ⟨existing, existing', found, found', related⟩ | ⟨failure, failure', stopped, stopped', alike⟩
  · rw [found, found']
    dsimp only
    rw [Journal.volume_note _ rfl, Journal.volume_note _ rfl]
    rcases writeMerged_respelled sound free (List.rel_append related each) outputs with
      ⟨after, done, done'⟩ | ⟨fault, fault', stopped, stopped', alike⟩
    · obtain ⟨contents, -, -, holds⟩ := writeMerged_spec sound done
      rw [done, done']
      exact Or.inl ⟨_, _, _, rfl, rfl, rfl, holds⟩
    · rw [stopped, stopped']
      exact Or.inr ⟨_, _, _, _, rfl, rfl, .file alike, rfl, rfl⟩
  · rw [stopped, stopped']
    exact Or.inr ⟨_, _, _, _, rfl, rfl, alike, rfl, rfl⟩

/-- The generated file is discovered under another spelling than its own in one of the merges, and left
out all the same. -/
theorem respelled_guides_are_merged_alike :
    let output' : Path := ⟨.top, ["docs", "..", "all.md"]⟩
    ∃ after after',
      merge { volume := twoGuides } [] ⟨.relative, ["docs"]⟩ [⟨.relative, ["docs", "b.md"]⟩]
        ⟨.relative, ["all.md"]⟩ = (after, none) ∧
      merge { volume := twoGuides } [] ⟨.top, ["docs"]⟩
        [⟨.relative, ["docs", "..", "docs", "b.md"]⟩] output' = (after', none) ∧
      after.volume = after'.volume ∧
      after'.volume.get? ["all.md"] = some (.file (Text.encodeUtf8 "A\nB")) := by
  intro output'
  have ended : (merge { volume := twoGuides } [] ⟨.relative, ["docs"]⟩
      [⟨.relative, ["docs", "b.md"]⟩] ⟨.relative, ["all.md"]⟩).2 = none ∧
      (merge { volume := twoGuides } [] ⟨.relative, ["docs"]⟩
        [⟨.relative, ["docs", "b.md"]⟩] ⟨.relative, ["all.md"]⟩).1.volume.get? ["all.md"] =
          some (.file (Text.encodeUtf8 "A\nB")) := by
    simp only [merge, findExisting, discover, markdownBelow, mergeSort_eq_insertionSort]
    decide +kernel
  have documentations : twoGuides.Respelled [] ⟨.relative, ["docs"]⟩ ⟨.top, ["docs"]⟩ :=
    ⟨by decide, by decide, rfl⟩
  have guides : twoGuides.Respelled [] ⟨.relative, ["docs", "b.md"]⟩
      ⟨.relative, ["docs", "..", "docs", "b.md"]⟩ := ⟨by decide, by decide, rfl⟩
  have outputs : twoGuides.Respelled [] ⟨.relative, ["all.md"]⟩ output' :=
    ⟨by decide, by decide, rfl⟩
  have alike := merging_ignores_spelling wellFormedAt_twoGuides (by decide) documentations
    (.cons guides .nil) outputs
  rcases alike with ⟨after, after', -, done, done', same, -⟩ | ⟨_, _, _, _, stopped, -⟩
  · rw [done] at ended
    exact ⟨after, after', done, done', same, same ▸ ended.2⟩
  · rw [stopped] at ended
    cases ended.1

end Collection

end MemberDocs
