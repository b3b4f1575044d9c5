import MemberDocs.Collection.Merge
import MemberDocs.Proofs.Collection.Discovery
import MemberDocs.Proofs.Generation.Journal
import MemberDocs.Proofs.Result

/-! # What a merge writes

All sources are read before anything is written. So a merge that is done has joined what its sources
held when it started, wherever its output is (`merge_spec`), and done again on what it has left it
changes nothing (`merge_again`).
-/

namespace MemberDocs.Collection

open Generation

variable {directory : Location}

/-- Each of the paths means a file with its content. -/
def Hold (volume : Volume) (directory : Location) : List Path → List (List UInt8) → Prop :=
  List.Forall₂ fun path content =>
    volume.get? (path.resolve directory) = some (.file content)

theorem Hold.split {volume : Volume} {first second : List Path} {contents : List (List UInt8)}
    (held : Hold volume directory (first ++ second) contents) :
    ∃ before after, contents = before ++ after ∧
      Hold volume directory first before ∧ Hold volume directory second after :=
  ⟨_, _, (List.take_append_drop first.length contents).symm,
    (List.forall₂_take_append _ _ _ (List.Forall₂.flip held)).flip,
    (List.forall₂_drop_append _ _ _ (List.Forall₂.flip held)).flip⟩

/-! ## What a merge is made of -/

theorem findExisting_eq_ok_iff {volume : Volume} {documentation output : Path}
    {generated existing : List Path} :
    findExisting volume directory documentation generated output = .ok existing ↔
      (output :: generated).any Path.hasNull = false ∧ ∃ discovered,
        discover volume directory documentation = .ok discovered ∧
          existing = existingSources directory discovered generated output ∧
          ¬ (existing = [] ∧ generated = []) := by
  unfold findExisting
  cases (output :: generated).any Path.hasNull with
  | true => simp
  | false =>
    cases discover volume directory documentation with
    | error fault => simp
    | ok discovered =>
      simp only [Bool.false_eq_true, ↓reduceIte, Except.ok.injEq, true_and, exists_eq_left',
        Bool.and_eq_true, List.isEmpty_iff]
      constructor
      · intro chosen
        split at chosen
        next => cases chosen
        next some =>
          obtain rfl := Except.ok.inj chosen
          exact ⟨rfl, some⟩
      · rintro ⟨rfl, some⟩
        rw [if_neg some]

theorem writeMerged_eq_iff {volume after : Volume} {sources : List Path} {output : Path} :
    writeMerged volume directory sources output = (after, none) ↔ ∃ contents made,
      sources.mapM (volume.read directory) = .ok contents ∧
        volume.ensureDirectories directory output.parent = (made, none) ∧
        made.write directory output (joinContents contents) = .ok after := by
  unfold writeMerged
  cases sources.mapM (volume.read directory) with
  | error fault => simp
  | ok contents =>
    cases volume.ensureDirectories directory output.parent with
    | mk made fault =>
      cases fault with
      | some fault => simp
      | none =>
        cases written : made.write directory output (joinContents contents) <;> simp [written]

theorem merge_eq_iff {journal after : Journal} {documentation output : Path}
    {generated : List Path} :
    merge journal directory documentation generated output = (after, none) ↔
      ∃ existing volume,
        findExisting journal.volume directory documentation generated output = .ok existing ∧
          writeMerged (journal.note (mergeRecord existing generated output)).volume directory
            (existing ++ generated) output = (volume, none) ∧
          after = { journal.note (mergeRecord existing generated output) with volume } := by
  unfold merge
  cases findExisting journal.volume directory documentation generated output with
  | error failure => simp
  | ok existing =>
    cases merged : writeMerged (journal.note (mergeRecord existing generated output)).volume
        directory (existing ++ generated) output with
    | mk volume fault => cases fault <;> simp [merged, eq_comm]

/-- A merge fails because of a file, or because there is nothing to merge. -/
theorem failure_of_merge {journal after : Journal} {documentation output : Path}
    {generated : List Path} {failure : Failure}
    (failed : merge journal directory documentation generated output = (after, some failure)) :
    failure = .nothingToMerge ∨ ∃ fault, failure = .file fault := by
  unfold merge at failed
  split at failed
  next other found =>
    obtain rfl := Option.some.inj (congrArg Prod.snd failed)
    unfold findExisting at found
    split at found
    next =>
      obtain rfl := Except.error.inj found
      exact Or.inr ⟨_, rfl⟩
    next =>
      split at found
      next fault discovered =>
        obtain rfl := Except.error.inj found
        exact Or.inr ⟨fault, rfl⟩
      next =>
        dsimp only at found
        split at found
        next =>
          obtain rfl := Except.error.inj found
          exact Or.inl rfl
        next => cases found
  next existing found =>
    obtain ⟨fault, -, rfl⟩ := Option.map_eq_some_iff.mp (congrArg Prod.snd failed)
    exact Or.inr ⟨fault, rfl⟩

/-! ## What a merge writes -/

/-- The output holds what the sources held, and no other file has changed. -/
theorem writeMerged_spec {volume after : Volume} {sources : List Path} {output : Path}
    (sound : volume.WellFormedAt directory)
    (done : writeMerged volume directory sources output = (after, none)) :
    ∃ contents, Hold volume directory sources contents ∧
      Volume.Evolves (· = output.resolve directory) (· = output.resolve directory) volume after ∧
      after.get? (output.resolve directory) = some (.file (joinContents contents)) := by
  obtain ⟨contents, made, found, ensured, writing⟩ := writeMerged_eq_iff.mp done
  have held : Hold volume directory sources contents :=
    (forall₂_of_mapM found).imp fun _ _ => Volume.get?_of_read
  have makes : Volume.MakesDirectories volume made := by
    have evolves := Volume.evolves_ensureDirectories sound output.parent
    rwa [ensured] at evolves
  obtain ⟨evolves, holds⟩ := Volume.evolves_of_write (makes.wellFormedAt sound) writing
  refine ⟨contents, held, ?_, holds⟩
  exact (makes.mono (fun _ => False.elim) fun _ => False.elim).trans evolves

theorem existingSources_eq_filter (directory : Location) (discovered generated : List Path)
    (output : Path) :
    existingSources directory discovered generated output = discovered.filter fun path =>
      path.resolve directory ∉ (output :: generated).map (·.resolve directory) :=
  List.filter_congr fun path _ => by rw [List.contains_eq_mem, ← decide_not]

/-- A merge notes what it does, reads what was discovered and generated, and writes the output. -/
theorem merge_spec {journal after : Journal} {documentation output : Path} {generated : List Path}
    (sound : journal.volume.WellFormedAt directory)
    (done : merge journal directory documentation generated output = (after, none)) :
    ∃ discovered noted contents,
      discover journal.volume directory documentation = .ok discovered ∧
      Journal.Writes (fun _ => False) journal noted ∧
      Hold noted.volume directory
        (existingSources directory discovered generated output ++ generated) contents ∧
      Journal.Writes (· = output.resolve directory) noted after ∧
      after.volume.get? (output.resolve directory) = some (.file (joinContents contents)) := by
  obtain ⟨_, volume, chosen, merged, rfl⟩ := merge_eq_iff.mp done
  obtain ⟨-, discovered, found, rfl, -⟩ := findExisting_eq_ok_iff.mp chosen
  have notes := Journal.writes_note sound.wellFormed
    (mergeRecord (existingSources directory discovered generated output) generated output)
  obtain ⟨contents, held, evolves, holds⟩ := writeMerged_spec (notes.wellFormedAt sound) merged
  exact ⟨discovered, _, contents, found, notes, held, Journal.writes_of_evolves evolves, holds⟩

/-! ## Merging once more -/

variable {documentation output : Path} {generated : List Path}

/-- The output is no source, so writing it does not change which files are older ones. -/
theorem existingSources_of_evolves {before after : Volume} (wellFormed : before.WellFormed)
    (evolves : Volume.Evolves (· = output.resolve directory) (· = output.resolve directory)
      before after) {entry : FileEntry}
    (found : before.status directory documentation = some entry) :
    existingSources directory (documentationFiles after directory documentation) generated output =
      existingSources directory (documentationFiles before directory documentation) generated
        output := by
  rw [existingSources_eq_filter, existingSources_eq_filter]
  refine filter_documentationFiles_of_evolves evolves wellFormed ?_
    fun location (kept : decide (location ∉ (output :: generated).map (·.resolve directory))) hit =>
      ?_
  · have there := Volume.get?_of_status found
    cases entry with
    | file content => exact Or.inl ⟨content, there⟩
    | directory => exact Or.inr (evolves.directories _ there)
  · subst hit
    exact of_decide_eq_true kept List.mem_cons_self

/-- Sources that are not written over are merged once more into what is there. -/
theorem writeMerged_again {volume after later : Volume} {sources : List Path}
    (sound : volume.WellFormedAt directory)
    (done : writeMerged volume directory sources output = (after, none))
    (apart : ∀ path ∈ sources, path.resolve directory ≠ output.resolve directory)
    (same : ∀ location, later.get? location = after.get? location) (wellFormed : later.WellFormed) :
    ∃ last, writeMerged later directory sources output = (last, none) ∧
      ∀ location, last.get? location = later.get? location := by
  obtain ⟨contents, made, reads, ensured, written⟩ := writeMerged_eq_iff.mp done
  have makes : Volume.MakesDirectories volume made := by
    have evolves := Volume.evolves_ensureDirectories sound output.parent
    rwa [ensured] at evolves
  obtain ⟨puts, holds⟩ := Volume.evolves_of_write (makes.wellFormedAt sound) written
  have stays := Volume.evolves_of_get?_eq same wellFormed
  have onwards : Volume.Evolves (· = output.resolve directory) (· = output.resolve directory) made
      later := puts.trans (stays.mono (fun _ => False.elim) fun _ => False.elim)
  have all := (makes.mono (fun _ => False.elim) fun _ => False.elim).trans onwards
  have readsAgain : sources.mapM (later.read directory) = .ok contents := by
    refine mapM_of_forall₂ (((List.forall₂_and_left _ _).mpr
      ⟨apart, forall₂_of_mapM reads⟩).imp fun path content both => ?_)
    obtain ⟨elsewhere, read⟩ := both
    exact all.read_eq elsewhere read
  have ensuredAgain : later.ensureDirectories directory output.parent = (later, none) :=
    Volume.ensureDirectories_of_isDirectory (all.wellFormedAt sound)
      (onwards.isDirectory (Volume.isDirectory_of_ensureDirectories sound ensured))
  have held : later.get? (output.resolve directory) = some (.file (joinContents contents)) := by
    rw [same, holds]
  obtain ⟨noNull, targeted, -, -⟩ := Volume.write_eq_ok_iff.mp written
  have writtenAgain : later.write directory output (joinContents contents) =
      .ok (later.put (output.resolve directory) (.file (joinContents contents))) :=
    Volume.write_eq_ok_iff.mpr ⟨noNull, onwards.target_eq targeted, by simp [held], rfl⟩
  refine ⟨_, writeMerged_eq_iff.mpr ⟨contents, later, readsAgain, ensuredAgain, writtenAgain⟩,
    fun location => ?_⟩
  by_cases here : location = output.resolve directory
  · have notTop : output.resolve directory ≠ [] := by
      intro top
      simp [top] at held
    rw [here, Volume.get?_put_self _ notTop, held]
  · exact Volume.get?_put_of_ne _ here _

/-- A merge that is done once more, on the same files, changes nothing. -/
theorem merge_again {journal after later : Journal} (sound : journal.volume.WellFormedAt directory)
    (unlogged : journal.logFile = none)
    (done : merge journal directory documentation generated output = (after, none))
    (apart : ∀ path ∈ generated, path.resolve directory ≠ output.resolve directory)
    (same : ∀ location, later.volume.get? location = after.volume.get? location)
    (wellFormed : later.volume.WellFormed) (unloggedLater : later.logFile = none) :
    ∃ last, merge later directory documentation generated output = (last, none) ∧
      last.logFile = none ∧ ∀ location, last.volume.get? location = later.volume.get? location := by
  obtain ⟨existing, volume, chosen, merged, rfl⟩ := merge_eq_iff.mp done
  obtain ⟨noNull, discovered, found, listed, nonempty⟩ := findExisting_eq_ok_iff.mp chosen
  obtain ⟨⟨entry, status⟩, rfl⟩ := discover_eq_ok_iff.mp found
  rw [Journal.volume_note _ unlogged] at merged
  have stays : Volume.MakesDirectories volume later.volume :=
    Volume.evolves_of_get?_eq same wellFormed
  obtain ⟨_, -, writes, -⟩ := writeMerged_spec sound merged
  have all := writes.trans (stays.mono (fun _ => False.elim) fun _ => False.elim)
  have apartAll : ∀ path ∈ existing ++ generated,
      path.resolve directory ≠ output.resolve directory := by
    intro path member
    rcases List.mem_append.mp member with older | fresh
    · rw [listed, existingSources_eq_filter] at older
      intro hit
      exact of_decide_eq_true (List.mem_filter.mp older).2 (hit ▸ List.mem_cons_self)
    · exact apart path fresh
  have chosenAgain : findExisting later.volume directory documentation generated output =
      .ok existing := by
    obtain ⟨entryLater, statusLater, -⟩ := all.exists_status status
    exact findExisting_eq_ok_iff.mpr ⟨noNull, _,
      discover_eq_ok_iff.mpr ⟨⟨entryLater, statusLater⟩, rfl⟩,
      listed.trans (existingSources_of_evolves sound.wellFormed all status).symm, nonempty⟩
  obtain ⟨last, mergedAgain, unchanged⟩ := writeMerged_again sound merged apartAll same wellFormed
  refine ⟨_, merge_eq_iff.mpr ⟨existing, last, chosenAgain, ?_, rfl⟩, unloggedLater, unchanged⟩
  rwa [Journal.volume_note _ unloggedLater]

end MemberDocs.Collection
