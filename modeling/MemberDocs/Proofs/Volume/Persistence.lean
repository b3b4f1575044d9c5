import MemberDocs.Proofs.Volume.Evolution

/-! # What stays when a volume changes

While directories stay directories and files stay files, a path that leads somewhere goes on leading
there (`Evolves.locate_eq`, `Evolves.target_eq`). So a file that has been read or written can be read
and written again (`read_eq_ok_iff`, `write_eq_ok_iff`), and a directory that has been made is not
made a second time (`ensureDirectories_of_isDirectory`).
-/

namespace MemberDocs.Volume

variable {volume before after : Volume} {directory : Location} {path : Path}
  {made changed : Location → Prop}

/-- A volume with the same at every location. -/
theorem evolves_of_get?_eq (same : ∀ location, after.get? location = before.get? location)
    (wellFormed : after.WellFormed) : MakesDirectories before after :=
  ⟨fun location isDirectory => by rw [same, isDirectory],
    fun location content there => ⟨content, by rw [same, there]⟩,
    fun location content _ there => ⟨content, by rw [← same, there]⟩,
    fun location content _ there => by rw [← same, there], fun _ => wellFormed⟩

/-! ## Following -/

theorem follow_append {start middle : Location} {first : List String}
    (followed : volume.follow start first = .ok middle)
    (isDirectory : volume.get? middle = some .directory) (second : List String) :
    volume.follow start (first ++ second) = volume.follow middle second := by
  induction first generalizing start with
  | nil =>
    obtain rfl := Except.ok.inj followed
    rfl
  | cons part rest ih =>
    rw [follow] at followed
    rw [List.cons_append, follow]
    by_cases up : part = ".."
    · rw [if_pos up] at followed ⊢
      exact ih followed
    · rw [if_neg up] at followed ⊢
      split at followed
      next => cases followed
      next found => simpa [found] using ih followed
      next content found =>
        split at followed
        next =>
          obtain rfl := Except.ok.inj followed
          simp [found] at isDirectory
        next => cases followed

/-- What a plain last name leads to is in a directory. -/
theorem WellFormed.follow_concat (wellFormed : volume.WellFormed) {start reached : Location}
    {parts : List String} {name : String} (plain : name ≠ "..")
    (isDirectory : volume.get? start = some .directory)
    (followed : volume.follow start (parts ++ [name]) = .ok reached) :
    ∃ middle, volume.follow start parts = .ok middle ∧
      volume.get? middle = some .directory ∧ reached = middle ++ [name] := by
  induction parts generalizing start with
  | nil =>
    refine ⟨start, rfl, isDirectory, ?_⟩
    rw [follow_eq_normalise followed, List.nil_append, normalise, if_neg plain, normalise]
  | cons part rest ih =>
    rw [List.cons_append, follow] at followed
    rw [follow]
    by_cases up : part = ".."
    · rw [if_pos up] at followed ⊢
      exact ih (wellFormed.get?_dropLast isDirectory) followed
    · rw [if_neg up] at followed ⊢
      split at followed
      next => cases followed
      next found =>
        obtain ⟨middle, there, inside, same⟩ := ih found followed
        exact ⟨middle, by simpa [found] using there, inside, same⟩
      next content found => simp at followed

/-- From a directory, the names down to what is there can be followed. -/
theorem WellFormed.follow_of_get? (wellFormed : volume.WellFormed) {start : Location}
    {names : List String} {entry : FileEntry}
    (there : volume.get? (start ++ names) = some entry) :
    volume.follow start names = .ok (start ++ names) := by
  induction names generalizing start with
  | nil => rw [follow, List.append_nil]
  | cons name rest ih =>
    have plain : name ≠ ".." := by
      rintro rfl
      exact wellFormed.not_mem_of_get? there (by simp)
    have onwards : start ++ name :: rest = (start ++ [name]) ++ rest := by simp
    rw [follow, if_neg plain]
    rw [onwards] at there ⊢
    cases rest with
    | nil =>
      rw [List.append_nil] at there ⊢
      rw [there]
      cases entry <;> rfl
    | cons second more =>
      rw [wellFormed.get?_of_append (List.cons_ne_nil second more) there]
      exact ih there

theorem Evolves.follow_eq (evolves : Evolves made changed before after) {start reached : Location}
    {parts : List String} (followed : before.follow start parts = .ok reached) :
    after.follow start parts = .ok reached := by
  induction parts generalizing start with
  | nil => exact followed
  | cons part rest ih =>
    rw [follow] at followed ⊢
    by_cases up : part = ".."
    · rw [if_pos up] at followed ⊢
      exact ih followed
    · rw [if_neg up] at followed ⊢
      split at followed
      next => cases followed
      next found => simpa [evolves.directories _ found] using ih followed
      next content found =>
        obtain ⟨later, stays⟩ := evolves.files _ content found
        split at followed
        next last => simpa [stays, last] using followed
        next => cases followed

theorem Evolves.locate_eq (evolves : Evolves made changed before after) {reached : Location}
    (located : before.locate directory path = .ok reached) :
    after.locate directory path = .ok reached :=
  evolves.follow_eq located

theorem Evolves.target_eq (evolves : Evolves made changed before after) {reached : Location}
    (targeted : before.target directory path = .ok reached) :
    after.target directory path = .ok reached := by
  unfold target at targeted ⊢
  split at targeted
  next => exact targeted
  next name _ =>
    split at targeted
    next up => simpa [up] using evolves.locate_eq targeted
    next plain =>
      simp only [plain, ↓reduceIte]
      cases followed : before.follow (startOf directory path) path.parts.dropLast with
      | error reason => simp [followed] at targeted
      | ok location =>
        simp only [followed] at targeted
        split at targeted
        next inside =>
          rw [evolves.follow_eq followed]
          simpa [evolves.directories _ inside] using targeted
        next => cases targeted

/-- A place that can be written leads to what is there. -/
theorem locate_of_target {reached : Location} {entry : FileEntry}
    (targeted : volume.target directory path = .ok reached)
    (there : volume.get? reached = some entry) : volume.locate directory path = .ok reached := by
  unfold target at targeted
  unfold locate
  split at targeted
  next noParts =>
    rw [List.getLast?_eq_none_iff.mp noParts]
    exact targeted
  next name last =>
    split at targeted
    next => exact targeted
    next plain =>
      obtain ⟨parts, split⟩ := List.getLast?_eq_some_iff.mp last
      rw [split, List.dropLast_concat] at targeted
      cases followed : volume.follow (startOf directory path) parts with
      | error reason => simp [followed] at targeted
      | ok location =>
        simp only [followed] at targeted
        split at targeted
        next inside =>
          obtain rfl := Except.ok.inj targeted
          rw [split, follow_append followed inside, follow, if_neg plain, there]
          cases entry <;> rfl
        next => cases targeted

/-- Where a path leads is a place that can be written. -/
theorem WellFormedAt.target_of_locate (sound : volume.WellFormedAt directory) {reached : Location}
    (located : volume.locate directory path = .ok reached) :
    volume.target directory path = .ok reached := by
  unfold target
  unfold locate at located
  split
  next noParts =>
    rw [List.getLast?_eq_none_iff.mp noParts] at located
    exact located
  next name last =>
    by_cases up : name = ".."
    · rw [if_pos up]
      exact located
    · obtain ⟨parts, split⟩ := List.getLast?_eq_some_iff.mp last
      rw [split] at located
      obtain ⟨middle, followed, inside, rfl⟩ :=
        sound.wellFormed.follow_concat up (sound.get?_startOf path) located
      simp [up, split, followed, inside]

/-! ## Reading and writing -/

theorem read_eq_ok_iff {content : List UInt8} :
    volume.read directory path = .ok content ↔ path.hasNull = false ∧
      volume.locate directory path = .ok (path.resolve directory) ∧
      volume.get? (path.resolve directory) = some (.file content) := by
  constructor
  · intro done
    have there := get?_of_read done
    unfold read at done
    split at done
    next => cases done
    next noNull =>
      cases located : volume.locate directory path with
      | error reason => simp [located] at done
      | ok location =>
        rw [locate_eq_resolve located]
        exact ⟨by simpa using noNull, rfl, there⟩
  · rintro ⟨noNull, located, there⟩
    simp [read, noNull, located, there]

/-- A file that is not changed is read as before. -/
theorem Evolves.read_eq (evolves : Evolves made changed before after) {content : List UInt8}
    (apart : ¬ changed (path.resolve directory))
    (done : before.read directory path = .ok content) :
    after.read directory path = .ok content := by
  obtain ⟨noNull, located, there⟩ := read_eq_ok_iff.mp done
  exact read_eq_ok_iff.mpr ⟨noNull, evolves.locate_eq located, evolves.get?_of_apart apart there⟩

theorem write_eq_ok_iff {content : List UInt8} :
    volume.write directory path content = .ok after ↔ path.hasNull = false ∧
      volume.target directory path = .ok (path.resolve directory) ∧
      volume.get? (path.resolve directory) ≠ some .directory ∧
      after = volume.put (path.resolve directory) (.file content) := by
  constructor
  · intro written
    obtain ⟨same, targeted, notDirectory⟩ := put_of_write written
    refine ⟨?_, targeted, notDirectory, same⟩
    unfold write at written
    split at written
    next => cases written
    next noNull => simpa using noNull
  · rintro ⟨noNull, targeted, notDirectory, rfl⟩
    simp [write, noNull, targeted, notDirectory]

theorem status_eq_some_iff {entry : FileEntry} :
    volume.status directory path = some entry ↔ path.hasNull = false ∧
      volume.locate directory path = .ok (path.resolve directory) ∧
      volume.get? (path.resolve directory) = some entry := by
  constructor
  · intro found
    have there := get?_of_status found
    unfold status at found
    split at found
    next => cases found
    next noNull =>
      cases located : volume.locate directory path with
      | error reason => simp [located] at found
      | ok location =>
        rw [locate_eq_resolve located]
        exact ⟨by simpa using noNull, rfl, there⟩
  · rintro ⟨noNull, located, there⟩
    simp [status, noNull, located, there]

/-- What was a file or a directory is one. -/
theorem Evolves.exists_status (evolves : Evolves made changed before after) {entry : FileEntry}
    (found : before.status directory path = some entry) :
    ∃ later, after.status directory path = some later ∧
      (later = .directory ↔ entry = .directory) := by
  obtain ⟨noNull, located, there⟩ := status_eq_some_iff.mp found
  have leads := evolves.locate_eq located
  cases entry with
  | directory =>
    have stays := evolves.directories _ there
    exact ⟨.directory, status_eq_some_iff.mpr ⟨noNull, leads, stays⟩, Iff.rfl⟩
  | file content =>
    obtain ⟨later, stays⟩ := evolves.files _ content there
    exact ⟨.file later, status_eq_some_iff.mpr ⟨noNull, leads, stays⟩, by simp⟩

theorem Evolves.isDirectory (evolves : Evolves made changed before after)
    (isDirectory : before.isDirectory directory path) : after.isDirectory directory path := by
  obtain ⟨later, found, same⟩ := evolves.exists_status (of_decide_eq_true isDirectory)
  rw [Volume.isDirectory, found, same.mpr rfl]
  rfl

theorem isFile_eq_true_iff :
    volume.isFile directory path ↔ ∃ content, volume.status directory path = some (.file content) := by
  unfold isFile
  constructor
  · intro isFile
    split at isFile
    next content found => exact ⟨content, found⟩
    next => cases isFile
  · rintro ⟨content, found⟩
    rw [found]

theorem Evolves.isFile (evolves : Evolves made changed before after)
    (isFile : before.isFile directory path) : after.isFile directory path := by
  obtain ⟨content, found⟩ := isFile_eq_true_iff.mp isFile
  obtain ⟨later, there, same⟩ := evolves.exists_status found
  cases later with
  | directory => simp at same
  | file content => exact isFile_eq_true_iff.mpr ⟨content, there⟩

theorem exists_read_of_isFile (isFile : volume.isFile directory path) :
    ∃ content, volume.read directory path = .ok content := by
  obtain ⟨content, found⟩ := isFile_eq_true_iff.mp isFile
  exact ⟨content, read_eq_ok_iff.mpr (status_eq_some_iff.mp found)⟩

/-- What has been written is a file. -/
theorem isFile_of_write {content : List UInt8} (sound : volume.WellFormedAt directory)
    (written : volume.write directory path content = .ok after) : after.isFile directory path := by
  obtain ⟨noNull, targeted, -⟩ := write_eq_ok_iff.mp written
  obtain ⟨evolves, there⟩ := evolves_of_write sound written
  exact isFile_eq_true_iff.mpr ⟨content, status_eq_some_iff.mpr
    ⟨noNull, locate_of_target (evolves.target_eq targeted) there, there⟩⟩

/-! ## Directories -/

section WellFormedAt

variable (sound : volume.WellFormedAt directory)

include sound

/-- A directory that is there is not made. -/
theorem ensureDirectories_of_isDirectory (there : volume.isDirectory directory path) :
    volume.ensureDirectories directory path = (volume, none) := by
  obtain ⟨noNull, located, found⟩ := status_eq_some_iff.mp (of_decide_eq_true there)
  have exists' : volume.makeDirectory directory path = .error .exists := by
    simp [makeDirectory, sound.target_of_locate located, found]
  have ensured : volume.ensureDirectory directory path = (volume, none) := by
    simp [ensureDirectory, exists', there]
  unfold ensureDirectories
  rw [noNull]
  cases names : path.parts.reverse with
  | nil => rfl
  | cons name above =>
    have same : (⟨path.anchor, (name :: above).reverse⟩ : Path) = path := by
      rw [← names, List.reverse_reverse]
    rw [ensureChain]
    simp only [same, exists', ensured, Bool.false_eq_true, ↓reduceIte]

theorem isDirectory_of_ensureDirectory (noNull : path.hasNull = false)
    (ensured : volume.ensureDirectory directory path = (after, none)) :
    after.isDirectory directory path := by
  have there := get?_of_ensureDirectory ensured
  unfold ensureDirectory at ensured
  split at ensured
  next made fresh =>
    obtain rfl : made = after := congrArg Prod.fst ensured
    have evolves := evolves_of_makeDirectory sound fresh
    cases targeted : volume.target directory path with
    | error reason => simp [makeDirectory, targeted] at fresh
    | ok reached =>
      have later := evolves.target_eq targeted
      rw [target_eq_resolve targeted] at later
      exact decide_eq_true
        (status_eq_some_iff.mpr ⟨noNull, locate_of_target later there, there⟩)
  next =>
    split at ensured
    next old =>
      obtain rfl : volume = after := congrArg Prod.fst ensured
      simp only [Bool.and_eq_true] at old
      exact old.2
    next => simp at ensured

/-- A path that has been made a directory leads to one. -/
theorem isDirectory_of_ensureDirectories
    (ensured : volume.ensureDirectories directory path = (after, none)) :
    after.isDirectory directory path := by
  have there := get?_of_ensureDirectories sound ensured
  unfold ensureDirectories at ensured
  split at ensured
  next => simp at ensured
  next hasNull =>
    have noNull : path.hasNull = false := by simpa using hasNull
    cases names : path.parts.reverse with
    | nil =>
      have noParts : path.parts = [] := List.reverse_eq_nil_iff.mp names
      have located : after.locate directory path = .ok (path.resolve directory) := by
        rw [Path.resolve_eq, locate, noParts]
        rfl
      exact decide_eq_true (status_eq_some_iff.mpr ⟨noNull, located, there⟩)
    | cons name above =>
      have same : (⟨path.anchor, (name :: above).reverse⟩ : Path) = path := by
        rw [← names, List.reverse_reverse]
      rw [names, ensureChain] at ensured
      simp only [same] at ensured
      split at ensured
      next =>
        split at ensured
        next => simp at ensured
        next made chain =>
          have evolves := evolves_ensureChain sound path.anchor above
          rw [chain] at evolves
          exact isDirectory_of_ensureDirectory (evolves.wellFormedAt sound) noNull ensured
      next => exact isDirectory_of_ensureDirectory sound noNull ensured

end WellFormedAt

end MemberDocs.Volume
