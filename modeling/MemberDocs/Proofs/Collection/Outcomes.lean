import MemberDocs.Proofs.Collection.Merge
import MemberDocs.Proofs.Volume.Obstruction

/-! # How a merge ends

A merge is done unless an `Obstacle` is in its way. It joins what its sources held when it started and
changes no other file than its output; if it fails it changes none at all
(`merge_joins_its_sources`). Done again with the same arguments it changes nothing, if the output is no
generated file (`merging_again_changes_nothing`).
-/

namespace MemberDocs.Collection

open Generation

variable {volume : Volume} {directory : Location} {documentation output : Path}
  {generated : List Path}

/-- The files that a merge joins: the files of the documentation path that are neither generated nor
the output, then the generated ones. -/
def mergeSources (volume : Volume) (directory : Location) (documentation : Path)
    (generated : List Path) (output : Path) : List Path :=
  existingSources directory (documentationFiles volume directory documentation) generated output ++
    generated

/-- Files have one content each. -/
theorem Hold.unique {sources : List Path} {contents others : List (List UInt8)}
    (held : Hold volume directory sources contents) (again : Hold volume directory sources others) :
    contents = others := by
  induction held generalizing others with
  | nil =>
    cases again
    rfl
  | cons there _ ih =>
    cases again with
    | cons here rest =>
      obtain rfl := FileEntry.file.inj (Option.some.inj (there.symm.trans here))
      rw [ih rest]

/-- What is in the way of a merge. -/
inductive Obstacle (volume : Volume) (directory : Location) (documentation : Path)
    (generated : List Path) (output : Path) : Prop where
  | noDocumentation (missing : volume.status directory documentation = none)
  | noSources (nothing : mergeSources volume directory documentation generated output = [])
  | unreadable {source : Path}
      (among : source ∈ mergeSources volume directory documentation generated output)
      (refused : ∀ content, volume.read directory source ≠ .ok content)
  | nullInOutput (null : output.hasNull)
  | outputIsDirectory (there : volume.get? (output.resolve directory) = some .directory)
  /-- A path that ends in two dots is that of a directory. -/
  | outputEndsAbove (last : output.parts.getLast? = some "..")
  /-- The way to the output passes through it, so that it has to be a directory. -/
  | outputOnItsWay
      (onTheWay : Volume.OnTheWay directory output.parent (output.resolve directory))
  | outputBelowFile (below : volume.FileOnTheWay directory output.parent)

/-! ## When a merge is done -/

theorem not_obstacle_of_merge (sound : volume.WellFormedAt directory) {after : Journal}
    (done : merge { volume } directory documentation generated output = (after, none)) :
    ¬ Obstacle volume directory documentation generated output := by
  obtain ⟨_, written, chosen, merged, rfl⟩ := merge_eq_iff.mp done
  obtain ⟨-, discovered, found, rfl, sources⟩ := findExisting_eq_ok_iff.mp chosen
  obtain ⟨⟨entry, status⟩, rfl⟩ := discover_eq_ok_iff.mp found
  rw [Journal.volume_note _ rfl] at merged
  obtain ⟨contents, made, reads, ensured, writing⟩ := writeMerged_eq_iff.mp merged
  obtain ⟨noNull, targeted, notDirectory, -⟩ := Volume.write_eq_ok_iff.mp writing
  have makes : Volume.MakesDirectories volume made := by
    have evolves := Volume.evolves_ensureDirectories sound output.parent
    rwa [ensured] at evolves
  have soundMade := makes.wellFormedAt sound
  intro obstacle
  cases obstacle with
  | noDocumentation missing => simp [missing] at status
  | noSources nothing => exact sources (List.append_eq_nil_iff.mp nothing)
  | unreadable among refused =>
    obtain ⟨content, read⟩ := exists_of_mem_forall₂ (forall₂_of_mapM reads) among
    exact refused content read
  | nullInOutput null => simp [noNull] at null
  | outputIsDirectory there => exact notDirectory (makes.directories _ there)
  | outputEndsAbove last =>
    unfold Volume.target at targeted
    simp only [last, ↓reduceIte] at targeted
    rcases soundMade.wellFormed.follow_spec (soundMade.get?_startOf output) targeted with
      isDirectory | ⟨-, other⟩
    · exact notDirectory isDirectory
    · exact other last
  | outputOnItsWay onTheWay =>
    exact notDirectory (soundMade.isDirectory_of_onTheWay
      (Volume.isDirectory_of_ensureDirectories sound ensured) onTheWay)
  | outputBelowFile below =>
    exact ((Volume.exists_ensureDirectories_iff sound).mp ⟨made, ensured⟩).2 below

/-- A file can be written in a directory, at a place that is none. -/
theorem exists_write_of_isDirectory (content : List UInt8)
    (sound : volume.WellFormedAt directory) (noNull : output.hasNull = false)
    (inside : volume.isDirectory directory output.parent)
    (last : output.parts.getLast? ≠ some "..")
    (notDirectory : volume.get? (output.resolve directory) ≠ some .directory) :
    ∃ after, volume.write directory output content = .ok after := by
  obtain ⟨anchor, parts⟩ := output
  cases parts using List.reverseRecOn with
  | nil => exact absurd (sound.get?_startOf ⟨anchor, []⟩) (by simpa [Path.resolve_eq, normalise]
      using notDirectory)
  | append_singleton names name =>
    have above : volume.isDirectory directory ⟨anchor, names⟩ := by
      simpa [Path.parent] using inside
    obtain ⟨location, targeted⟩ := Volume.exists_target_of_isDirectory name above
    obtain rfl := Volume.target_eq_resolve targeted
    exact ⟨_, Volume.write_eq_ok_iff.mpr ⟨noNull, targeted, notDirectory, rfl⟩⟩

theorem exists_merge_of_not_obstacle (sound : volume.WellFormedAt directory)
    (clear : ¬ Obstacle volume directory documentation generated output) :
    ∃ after, merge { volume } directory documentation generated output = (after, none) := by
  have noNull : output.hasNull = false :=
    Bool.eq_false_iff.mpr fun null => clear (.nullInOutput null)
  have readable : ∀ source ∈ mergeSources volume directory documentation generated output,
      ∃ content, volume.read directory source = .ok content := by
    intro source among
    by_contra refused
    exact clear (.unreadable among fun content read => refused ⟨content, read⟩)
  obtain ⟨entry, status⟩ := Option.ne_none_iff_exists'.mp fun missing =>
    clear (.noDocumentation missing)
  have chosen : findExisting volume directory documentation generated output = .ok
      (existingSources directory (documentationFiles volume directory documentation) generated
        output) := by
    refine findExisting_eq_ok_iff.mpr
      ⟨?_, _, discover_eq_ok_iff.mpr ⟨⟨entry, status⟩, rfl⟩, rfl, ?_⟩
    · simp only [List.any_cons, noNull, Bool.false_or, List.any_eq_false]
      intro path among
      obtain ⟨content, read⟩ := readable path (List.mem_append_right _ among)
      simp [(Volume.read_eq_ok_iff.mp read).1]
    · rintro ⟨noOlder, rfl⟩
      exact clear (.noSources (by rw [mergeSources, noOlder, List.append_nil]))
  obtain ⟨contents, reads⟩ := exists_mapM_of_each readable
  have noNullAbove : output.parent.hasNull = false :=
    List.any_eq_false.mpr fun name among =>
      List.any_eq_false.mp noNull name (List.dropLast_subset _ among)
  obtain ⟨made, ensured⟩ := (Volume.exists_ensureDirectories_iff sound).mpr
    ⟨noNullAbove, fun below => clear (.outputBelowFile below)⟩
  have makes : Volume.MakesDirectories volume made := by
    have evolves := Volume.evolves_ensureDirectories sound output.parent
    rwa [ensured] at evolves
  have notDirectory : made.get? (output.resolve directory) ≠ some .directory := by
    intro isDirectory
    have opens := Volume.opens_ensureDirectories volume directory output.parent
    rw [ensured] at opens
    rcases opens _ isDirectory with there | onTheWay
    · exact clear (.outputIsDirectory there)
    · exact clear (.outputOnItsWay onTheWay)
  obtain ⟨written, writing⟩ := exists_write_of_isDirectory (joinContents contents)
    (makes.wellFormedAt sound) noNull (Volume.isDirectory_of_ensureDirectories sound ensured)
    (fun last => clear (.outputEndsAbove last)) notDirectory
  refine ⟨_, merge_eq_iff.mpr ⟨_, written, chosen, ?_, rfl⟩⟩
  rw [Journal.volume_note _ rfl]
  exact writeMerged_eq_iff.mpr ⟨contents, made, reads, ensured, writing⟩

/-- A merge that fails has made directories at most. -/
theorem makesDirectories_of_failed (sound : volume.WellFormedAt directory) {after : Journal}
    {failure : Failure}
    (failed : merge { volume } directory documentation generated output = (after, some failure)) :
    Volume.MakesDirectories volume after.volume := by
  unfold merge at failed
  split at failed
  next =>
    obtain rfl := congrArg Prod.fst failed
    exact .refl _ _ _
  next existing found =>
    simp only [Prod.mk.injEq] at failed
    obtain ⟨rfl, stopped⟩ := failed
    rw [Journal.volume_note _ rfl] at stopped ⊢
    dsimp only at stopped ⊢
    unfold writeMerged at stopped ⊢
    have ensures := Volume.evolves_ensureDirectories sound output.parent
    split
    next => exact .refl _ _ _
    next contents reads =>
      rw [reads] at stopped
      dsimp only at stopped
      split
      next made fault ensured => rwa [ensured] at ensures
      next made ensured =>
        rw [ensured] at ensures stopped
        dsimp only at ensures stopped
        split
        next => exact ensures
        next written done => simp [done] at stopped

/-! ## What it changes -/

/-- **Merging.** A merge is done exactly if nothing is in its way. Its output holds what its sources
held before, the files that were there in the order of discovery, each once, and then the generated ones
as they are listed; every other file is as it was. A merge that fails has changed no file. -/
theorem merge_joins_its_sources (sound : volume.WellFormedAt directory) :
    ((∃ after, merge { volume } directory documentation generated output = (after, none)) ↔
      ¬ Obstacle volume directory documentation generated output) ∧
    (∀ after, merge { volume } directory documentation generated output = (after, none) →
      ∃ discovered contents, discover volume directory documentation = .ok discovered ∧
        (discovered.map (·.resolve directory)).Nodup ∧
        Hold volume directory (discovered.filter (fun path =>
          path.resolve directory ∉ (output :: generated).map (·.resolve directory)) ++ generated)
            contents ∧
        after.volume.get? (output.resolve directory) = some (.file (joinContents contents)) ∧
        ∀ location content, location ≠ output.resolve directory →
          (after.volume.get? location = some (.file content) ↔
            volume.get? location = some (.file content))) ∧
    ∀ after failure,
      merge { volume } directory documentation generated output = (after, some failure) →
        ∀ location content, after.volume.get? location = some (.file content) ↔
          volume.get? location = some (.file content) := by
  refine ⟨⟨fun ⟨after, done⟩ => not_obstacle_of_merge sound done,
    exists_merge_of_not_obstacle sound⟩, ?_, ?_⟩
  · intro after done
    obtain ⟨discovered, noted, contents, found, notes, held, writes, holds⟩ :=
      merge_spec sound done
    have unlogged : ∀ location, ¬ Journal.LogsTo { volume } location := Journal.not_logsTo rfl
    rw [existingSources_eq_filter] at held
    refine ⟨discovered, contents, found, ?_, ?_, holds, ?_⟩
    · rw [eq_documentationFiles_of_discover found]
      exact nodup_documentationFiles sound.wellFormed directory documentation
    · exact held.imp fun path content there => notes.get?_of_not_written id (unlogged _) there
    · intro location content apart
      have all : Journal.Writes (· = output.resolve directory) { volume } after :=
        (notes.mono fun _ => False.elim).trans writes
      exact ⟨all.get?_of_not_written apart (unlogged location),
        all.get?_of_apart apart (unlogged location)⟩
  · intro after failure failed location content
    have makes := makesDirectories_of_failed sound failed
    exact ⟨makes.unchanged location content id, makes.get?_of_apart id⟩

/-- A documentation directory with two files. -/
def twoGuides : Volume :=
  ⟨[(["docs"], .directory), (["docs", "b.md"], .file (Text.encodeUtf8 "B")),
    (["docs", "a.md"], .file (Text.encodeUtf8 "A"))]⟩

theorem wellFormedAt_twoGuides : twoGuides.WellFormedAt [] :=
  ⟨⟨by decide, by decide, by decide⟩, rfl⟩

/-- The output is a generated file, which is listed twice. -/
theorem generated_output_is_read_first :
    let guide : Path := ⟨.relative, ["docs", "b.md"]⟩
    ∃ after, merge { volume := twoGuides } [] ⟨.relative, ["docs"]⟩ [guide, guide] guide =
        (after, none) ∧
      after.volume.get? ["docs", "b.md"] = some (.file (Text.encodeUtf8 "A\nB\nB")) := by
  intro guide
  have found : discover twoGuides [] ⟨.relative, ["docs"]⟩ =
      .ok [⟨.relative, ["docs", "a.md"]⟩, guide] := by
    refine toOption_eq_some_iff.mp ?_
    simp only [discover, markdownBelow, mergeSort_eq_insertionSort]
    decide +kernel
  have ended : (merge { volume := twoGuides } [] ⟨.relative, ["docs"]⟩ [guide, guide] guide).2 =
      none := by
    simp only [merge, findExisting, discover, markdownBelow, mergeSort_eq_insertionSort]
    decide +kernel
  obtain ⟨discovered, contents, found', -, held, holds, -⟩ :=
    (merge_joins_its_sources wellFormedAt_twoGuides).2.1 _ (Prod.ext rfl ended)
  obtain rfl := Except.ok.inj (found.symm.trans found')
  obtain rfl : contents = [Text.encodeUtf8 "A", Text.encodeUtf8 "B", Text.encodeUtf8 "B"] :=
    held.unique (.cons rfl (.cons rfl (.cons rfl .nil)))
  exact ⟨_, Prod.ext rfl ended, holds.trans (by decide)⟩

/-! ## Merging again -/

/-- **Merging is idempotent.** A merge whose output is no generated file can be done again with the same
arguments, and changes nothing then, wherever the output is. -/
theorem merging_again_changes_nothing (sound : volume.WellFormedAt directory) {after : Journal}
    (apart : output.resolve directory ∉ generated.map (·.resolve directory))
    (done : merge { volume } directory documentation generated output = (after, none)) :
    ∃ last, merge { volume := after.volume } directory documentation generated output =
      (last, none) ∧ ∀ location, last.volume.get? location = after.volume.get? location := by
  obtain ⟨_, noted, _, -, notes, -, writes, -⟩ := merge_spec sound done
  have again : ∃ last, merge { volume := after.volume } directory documentation generated output =
      (last, none) ∧ last.logFile = none ∧
        ∀ location, last.volume.get? location = after.volume.get? location :=
    merge_again sound rfl done
      (fun path among hit => apart (List.mem_map.mpr ⟨path, among, hit⟩)) (fun _ => rfl)
      (writes.wellFormedAt (notes.wellFormedAt sound)).wellFormed rfl
  obtain ⟨last, merged, -, same⟩ := again
  exact ⟨last, merged, same⟩

/-- The output of the first merge is a new file below the files that it joins, in a new directory. -/
theorem new_output_is_no_source :
    let output : Path := ⟨.relative, ["docs", "all", "book.md"]⟩
    ∃ after last, merge { volume := twoGuides } [] ⟨.relative, ["docs"]⟩
        [⟨.relative, ["docs", "b.md"]⟩] output = (after, none) ∧
      after.volume.get? ["docs", "all", "book.md"] = some (.file (Text.encodeUtf8 "A\nB")) ∧
      merge { volume := after.volume } [] ⟨.relative, ["docs"]⟩
        [⟨.relative, ["docs", "b.md"]⟩] output = (last, none) ∧
      ∀ location, last.volume.get? location = after.volume.get? location := by
  intro output
  have ended : (merge { volume := twoGuides } [] ⟨.relative, ["docs"]⟩
      [⟨.relative, ["docs", "b.md"]⟩] output).2 = none ∧
      (merge { volume := twoGuides } [] ⟨.relative, ["docs"]⟩
        [⟨.relative, ["docs", "b.md"]⟩] output).1.volume.get? ["docs", "all", "book.md"] =
          some (.file (Text.encodeUtf8 "A\nB")) := by
    simp only [merge, findExisting, discover, markdownBelow, mergeSort_eq_insertionSort]
    decide +kernel
  obtain ⟨last, again, same⟩ := merging_again_changes_nothing wellFormedAt_twoGuides (by decide)
    (Prod.ext rfl ended.1)
  exact ⟨_, last, Prod.ext rfl ended.1, ended.2, again, same⟩

end MemberDocs.Collection
