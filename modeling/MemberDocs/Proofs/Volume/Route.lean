import MemberDocs.Proofs.Volume.WellFormed

/-! # Where paths lead

Two dots lead back to the directory above, so without links a path that can be followed leads to the
location that its text means (`locate_eq_resolve`, `target_eq_resolve`). Following goes through
directories only, and a path that is to be written names a place in a directory
(`WellFormedAt.target_spec`).
-/

namespace MemberDocs

theorem normalise_append (location : Location) (first second : List String) :
    normalise location (first ++ second) = normalise (normalise location first) second := by
  induction first generalizing location with
  | nil => rfl
  | cons part rest ih =>
    by_cases up : part = ".."
    · simp [normalise, up, ih]
    · simp [normalise, up, ih]

/-- Names without two dots lead straight down. -/
theorem normalise_of_plain {names : List String} (plain : ".." ∉ names) (location : Location) :
    normalise location names = location ++ names := by
  induction names generalizing location with
  | nil => rw [normalise, List.append_nil]
  | cons name rest ih =>
    rw [List.mem_cons, not_or] at plain
    rw [normalise, if_neg (Ne.symm plain.1), ih plain.2]
    simp

theorem Path.resolve_eq (directory : Location) (path : Path) :
    path.resolve directory = normalise (Volume.startOf directory path) path.parts := by
  obtain ⟨anchor, parts⟩ := path
  cases anchor <;> rfl

theorem not_mem_normalise {location : Location} (plain : ".." ∉ location) (names : List String) :
    ".." ∉ normalise location names := by
  induction names generalizing location with
  | nil => exact plain
  | cons name rest ih =>
    rw [normalise]
    split
    next => exact ih fun among => plain (List.dropLast_subset location among)
    next named => exact ih (by simpa [plain] using Ne.symm named)

theorem Path.parts_absolute (directory : Location) (path : Path) :
    (path.absolute directory).parts = path.resolve directory := by
  obtain ⟨anchor, parts⟩ := path
  cases anchor <;> rfl

/-- A path that is made absolute means the same location. -/
theorem Path.resolve_absolute {directory : Location} (plain : ".." ∉ directory) (path : Path)
    (start : Location) : (path.absolute directory).resolve start = path.resolve directory := by
  have meant : normalise [] (path.resolve directory) = path.resolve directory := by
    obtain ⟨anchor, parts⟩ := path
    cases anchor
    · exact normalise_of_plain (not_mem_normalise plain parts) []
    · exact normalise_of_plain (not_mem_normalise List.not_mem_nil parts) []
    · exact normalise_of_plain (not_mem_normalise List.not_mem_nil parts) []
  obtain ⟨anchor, parts⟩ := path
  cases anchor <;> exact meant

theorem Path.resolve_append {names : List String} (plain : ".." ∉ names) (directory : Location)
    (path : Path) :
    (⟨path.anchor, path.parts ++ names⟩ : Path).resolve directory =
      path.resolve directory ++ names := by
  rw [Path.resolve_eq, Path.resolve_eq, normalise_append, normalise_of_plain plain]
  rfl

namespace Volume

variable {volume : Volume} {directory : Location}

/-- Where following leads is where the names mean to lead. -/
theorem follow_eq_normalise {location reached : Location} {parts : List String}
    (followed : volume.follow location parts = .ok reached) :
    reached = normalise location parts := by
  induction parts generalizing location with
  | nil => exact (Except.ok.inj followed).symm
  | cons part rest ih =>
    rw [follow] at followed
    by_cases up : part = ".."
    · rw [if_pos up] at followed
      rw [normalise, if_pos up, ih followed]
    · rw [if_neg up] at followed
      rw [normalise, if_neg up]
      split at followed
      · cases followed
      · exact ih followed
      · split at followed
        next last =>
          obtain rfl : rest = [] := List.isEmpty_iff.mp last
          exact (Except.ok.inj followed).symm
        next => cases followed

theorem locate_eq_resolve {path : Path} {reached : Location}
    (located : volume.locate directory path = .ok reached) : reached = path.resolve directory := by
  rw [Path.resolve_eq]
  exact follow_eq_normalise located

theorem target_eq_resolve {path : Path} {reached : Location}
    (targeted : volume.target directory path = .ok reached) : reached = path.resolve directory := by
  unfold target at targeted
  split at targeted
  next noParts =>
    rw [Path.resolve_eq, List.getLast?_eq_none_iff.mp noParts]
    exact (Except.ok.inj targeted).symm
  next name last =>
    split at targeted
    · exact locate_eq_resolve targeted
    next notUp =>
      cases followed : volume.follow (startOf directory path) path.parts.dropLast with
      | error reason => simp [followed] at targeted
      | ok location =>
        simp only [followed] at targeted
        split at targeted
        next =>
          obtain rfl : location ++ [name] = reached := Except.ok.inj targeted
          obtain ⟨before, split⟩ := List.getLast?_eq_some_iff.mp last
          have plain : ".." ∉ [name] := by simpa using Ne.symm notUp
          rw [Path.resolve_eq, split, normalise_append, normalise_of_plain plain,
            follow_eq_normalise followed, split, List.dropLast_concat]
        next => cases targeted

theorem get?_of_read {path : Path} {content : List UInt8}
    (done : volume.read directory path = .ok content) :
    volume.get? (path.resolve directory) = some (.file content) := by
  unfold read at done
  split at done
  · cases done
  · cases located : volume.locate directory path with
    | error reason => simp [located] at done
    | ok location =>
      rw [← locate_eq_resolve located]
      simp only [located] at done
      split at done
      next found =>
        obtain rfl := Except.ok.inj done
        exact found
      next => cases done
      next => cases done

theorem get?_of_status {path : Path} {entry : FileEntry}
    (found : volume.status directory path = some entry) :
    volume.get? (path.resolve directory) = some entry := by
  unfold status at found
  split at found
  · cases found
  · cases located : volume.locate directory path with
    | error reason => simp [located] at found
    | ok location =>
      rw [← locate_eq_resolve located]
      simpa [located] using found

/-- A well-formed volume that the working directory is a directory of. -/
structure WellFormedAt (volume : Volume) (directory : Location) : Prop where
  wellFormed : volume.WellFormed
  inside : volume.get? directory = some .directory

theorem WellFormedAt.get?_startOf (sound : volume.WellFormedAt directory) (path : Path) :
    volume.get? (startOf directory path) = some .directory := by
  obtain ⟨anchor, parts⟩ := path
  cases anchor
  · exact sound.inside
  · rfl
  · rfl

/-- From a directory, following leads to a directory, or by a last name to a file. -/
theorem WellFormed.follow_spec (wellFormed : volume.WellFormed) {location reached : Location}
    {parts : List String} (start : volume.get? location = some .directory)
    (followed : volume.follow location parts = .ok reached) :
    volume.get? reached = some .directory ∨
      (∃ content, volume.get? reached = some (.file content)) ∧ parts.getLast? ≠ some ".." := by
  induction parts generalizing location with
  | nil =>
    obtain rfl : location = reached := Except.ok.inj followed
    exact Or.inl start
  | cons part rest ih =>
    have later (next : Location) (there : volume.get? next = some .directory)
        (followed : volume.follow next rest = .ok reached) :
        volume.get? reached = some .directory ∨
          (∃ content, volume.get? reached = some (.file content)) ∧
            (part :: rest).getLast? ≠ some ".." := by
      rcases ih there followed with isDirectory | ⟨isFile, last⟩
      · exact Or.inl isDirectory
      · cases rest with
        | nil =>
          obtain rfl : next = reached := Except.ok.inj followed
          exact Or.inl there
        | cons second more => exact Or.inr ⟨isFile, by simpa using last⟩
    rw [follow] at followed
    by_cases up : part = ".."
    · rw [if_pos up] at followed
      exact later _ (wellFormed.get?_dropLast start) followed
    · rw [if_neg up] at followed
      split at followed
      next => cases followed
      next found => exact later _ found followed
      next content found =>
        split at followed
        next last =>
          obtain rfl : rest = [] := List.isEmpty_iff.mp last
          obtain rfl : location ++ [part] = reached := Except.ok.inj followed
          exact Or.inr ⟨⟨content, found⟩, by simpa using up⟩
        next => cases followed

/-- What can be written is a directory already, or a name in a directory. -/
theorem WellFormedAt.target_spec (sound : volume.WellFormedAt directory) {path : Path}
    {reached : Location} (targeted : volume.target directory path = .ok reached) :
    volume.get? reached = some .directory ∨
      reached ≠ [] ∧ ".." ∉ reached ∧ volume.get? reached.dropLast = some .directory := by
  have start := sound.get?_startOf path
  unfold target at targeted
  split at targeted
  next =>
    obtain rfl := Except.ok.inj targeted
    exact Or.inl start
  next name last =>
    split at targeted
    next up =>
      rcases sound.wellFormed.follow_spec start targeted with isDirectory | ⟨-, notUp⟩
      · exact Or.inl isDirectory
      · exact absurd (up ▸ last) notUp
    next notUp =>
      cases followed : volume.follow (startOf directory path) path.parts.dropLast with
      | error reason => simp [followed] at targeted
      | ok location =>
        simp only [followed] at targeted
        split at targeted
        next isDirectory =>
          obtain rfl : location ++ [name] = reached := Except.ok.inj targeted
          have names := sound.wellFormed.not_mem_of_get? isDirectory
          exact Or.inr ⟨by simp, by simpa [names] using Ne.symm notUp, by simpa using isDirectory⟩
        next => cases targeted

end Volume

end MemberDocs
