import MemberDocs.Proofs.Volume.Persistence

/-! # Which directories are new

Directories are made on the way that a path takes and nowhere else (`opens_ensureDirectories`), and
writing a file makes none (`opens_of_write`). If no directory is new, what can be read and written is
the same before and after, but for the files that are changed (`Evolves.read_eq_ok_iff`,
`Evolves.exists_write_iff`). If neither files nor directories are new, what kind of thing a path leads
to is the same (`Evolves.isFile_eq`).
-/

namespace MemberDocs.Volume

/-- The directories that the second volume has more than the first are at the `opened` locations. -/
def Opens (opened : Location → Prop) (before after : Volume) : Prop :=
  ∀ location, after.get? location = some .directory →
    before.get? location = some .directory ∨ opened location

/-- The location is on the way of a path: some of the first names of the path lead there. -/
def OnTheWay (directory : Location) (path : Path) (location : Location) : Prop :=
  ∃ names, names <+: path.parts ∧ location = (⟨path.anchor, names⟩ : Path).resolve directory

namespace Opens

variable {opened more : Location → Prop} {first second third : Volume}

theorem refl (opened : Location → Prop) (volume : Volume) : Opens opened volume volume :=
  fun _ => Or.inl

theorem mono (opens : Opens opened first second)
    (grows : ∀ location, opened location → more location) : Opens more first second :=
  fun location isDirectory => (opens location isDirectory).imp_right (grows location)

theorem trans (before : Opens opened first second) (after : Opens opened second third) :
    Opens opened first third := by
  intro location isDirectory
  rcases after location isDirectory with earlier | new
  · exact before location earlier
  · exact Or.inr new

end Opens

variable {volume after : Volume} {directory : Location} {path : Path}

/-! ## Operations -/

theorem opens_put_file (volume : Volume) (location : Location) (content : List UInt8) :
    Opens (fun _ => False) volume (volume.put location (.file content)) := by
  intro other isDirectory
  by_cases same : other = location
  · subst same
    by_cases top : other = []
    · rw [top, get?_top]
      exact Or.inl rfl
    · simp [get?_put_self _ top] at isDirectory
  · rw [get?_put_of_ne _ same] at isDirectory
    exact Or.inl isDirectory

theorem opens_of_write {content : List UInt8}
    (written : volume.write directory path content = .ok after) :
    Opens (fun _ => False) volume after := by
  obtain ⟨rfl, -, -⟩ := put_of_write written
  exact opens_put_file _ _ _

theorem opens_of_makeDirectory (made : volume.makeDirectory directory path = .ok after) :
    Opens (· = path.resolve directory) volume after := by
  unfold makeDirectory at made
  cases targeted : volume.target directory path with
  | error reason => simp [targeted] at made
  | ok location =>
    have meant := target_eq_resolve targeted
    subst meant
    cases there : volume.get? (path.resolve directory) with
    | some entry => simp [targeted, there] at made
    | none =>
      obtain rfl : volume.put (path.resolve directory) .directory = after := by
        simpa [targeted, there] using made
      intro other isDirectory
      by_cases same : other = path.resolve directory
      · exact Or.inr same
      · rw [get?_put_of_ne _ same] at isDirectory
        exact Or.inl isDirectory

theorem opens_ensureDirectory (volume : Volume) (directory : Location) (path : Path) :
    Opens (· = path.resolve directory) volume (volume.ensureDirectory directory path).1 := by
  unfold ensureDirectory
  split
  next made => exact opens_of_makeDirectory made
  next => split <;> exact .refl _ volume

theorem opens_ensureChain (volume : Volume) (directory : Location) (anchor : Anchor)
    (names : List String) :
    Opens (OnTheWay directory ⟨anchor, names.reverse⟩) volume
      (volume.ensureChain directory anchor names).1 := by
  induction names with
  | nil => exact .refl _ volume
  | cons name above ih =>
    have own (start : Volume) : Opens (OnTheWay directory ⟨anchor, (name :: above).reverse⟩) start
        (start.ensureDirectory directory ⟨anchor, (name :: above).reverse⟩).1 :=
      (opens_ensureDirectory start directory _).mono fun _ here =>
        ⟨_, List.prefix_rfl, here⟩
    have shorter : ∀ location, OnTheWay directory ⟨anchor, above.reverse⟩ location →
        OnTheWay directory ⟨anchor, (name :: above).reverse⟩ location := by
      rintro location ⟨names, first, meant⟩
      refine ⟨names, first.trans ?_, meant⟩
      rw [List.reverse_cons]
      exact List.prefix_append _ _
    unfold ensureChain
    simp only
    split
    · split
      next chain =>
        rw [chain] at ih
        exact ih.mono shorter
      next made chain =>
        rw [chain] at ih
        exact (ih.mono shorter).trans (own made)
    · exact own volume

/-- Directories are made on the way of the path that is to lead to one. -/
theorem opens_ensureDirectories (volume : Volume) (directory : Location) (path : Path) :
    Opens (OnTheWay directory path) volume (volume.ensureDirectories directory path).1 := by
  unfold ensureDirectories
  split
  · exact .refl _ volume
  · have opens := opens_ensureChain volume directory path.anchor path.parts.reverse
    rwa [List.reverse_reverse] at opens

/-! ## Volumes with the same directories -/

section SameDirectories

variable {made changed : Location → Prop} {before after : Volume}
  (evolves : Evolves made changed before after) (opens : Opens (fun _ => False) before after)

include evolves opens

theorem Evolves.get?_eq_directory_iff (location : Location) :
    after.get? location = some .directory ↔ before.get? location = some .directory :=
  ⟨fun isDirectory => (opens location isDirectory).resolve_right id, evolves.directories location⟩

/-- Without new directories, names that lead to what has been there have led to it before. -/
theorem Evolves.follow_of_later {start reached : Location} {parts : List String}
    {entry : FileEntry} (there : before.get? reached = some entry)
    (followed : after.follow start parts = .ok reached) :
    before.follow start parts = .ok reached := by
  induction parts generalizing start with
  | nil => exact followed
  | cons part rest ih =>
    rw [follow] at followed ⊢
    by_cases up : part = ".."
    · rw [if_pos up] at followed ⊢
      exact ih followed
    · rw [if_neg up] at followed ⊢
      split at followed
      next => cases followed
      next found =>
        rw [(evolves.get?_eq_directory_iff opens _).mp found]
        exact ih followed
      next content found =>
        split at followed
        next last =>
          obtain rfl := Except.ok.inj followed
          cases entry with
          | directory => simp [evolves.directories _ there] at found
          | file earlier => simp [there, last]
        next => cases followed

/-- Without new directories, what can be read and is not changed could be read before. -/
theorem Evolves.read_eq_ok_iff (directory : Location) (path : Path) (content : List UInt8)
    (apart : ¬ changed (path.resolve directory)) :
    after.read directory path = .ok content ↔ before.read directory path = .ok content := by
  refine ⟨fun done => ?_, evolves.read_eq apart⟩
  obtain ⟨noNull, located, there⟩ := Volume.read_eq_ok_iff.mp done
  have earlier := evolves.unchanged _ content apart there
  exact Volume.read_eq_ok_iff.mpr
    ⟨noNull, evolves.follow_of_later opens earlier located, earlier⟩

variable {directory : Location} (sound : before.WellFormedAt directory)

include sound

/-- Without new directories, what can be written could be written before. -/
theorem Evolves.target_eq_ok_iff (path : Path) (reached : Location) :
    after.target directory path = .ok reached ↔ before.target directory path = .ok reached := by
  refine ⟨fun targeted => ?_, evolves.target_eq⟩
  have soundAfter := evolves.wellFormedAt sound
  unfold target at targeted ⊢
  split at targeted
  next => exact targeted
  next name last =>
    split at targeted
    next up =>
      rw [if_pos up]
      rcases soundAfter.wellFormed.follow_spec (soundAfter.get?_startOf path) targeted with
        isDirectory | ⟨-, notUp⟩
      · exact evolves.follow_of_later opens
          ((evolves.get?_eq_directory_iff opens reached).mp isDirectory) targeted
      · exact absurd (up ▸ last) notUp
    next plain =>
      rw [if_neg plain]
      cases followed : after.follow (startOf directory path) path.parts.dropLast with
      | error reason => simp [followed] at targeted
      | ok location =>
        simp only [followed] at targeted
        split at targeted
        next inside =>
          have earlier := (evolves.get?_eq_directory_iff opens location).mp inside
          rw [evolves.follow_of_later opens earlier followed]
          simpa [earlier] using targeted
        next => cases targeted

theorem Evolves.exists_write_iff (path : Path) (content : List UInt8) :
    (∃ written, after.write directory path content = .ok written) ↔
      ∃ written, before.write directory path content = .ok written := by
  simp only [write_eq_ok_iff, evolves.target_eq_ok_iff opens sound, Ne,
    evolves.get?_eq_directory_iff opens, exists_and_left, exists_eq, and_true]

end SameDirectories

/-! ## Volumes of the same shape -/

section SameShape

variable {changed : Location → Prop} {before after : Volume}
  (evolves : Evolves (fun _ => False) changed before after)
  (opens : Opens (fun _ => False) before after) (wellFormed : before.WellFormed)

include evolves opens wellFormed

/-- If nothing is new, the first volume follows from the second one by changes alone. -/
theorem Evolves.symm : Evolves (fun _ => False) changed after before where
  directories location isDirectory := (opens location isDirectory).resolve_right id
  files location content there := evolves.fresh location content id there
  fresh location content _ there := evolves.files location content there
  unchanged _ _ apart there := evolves.get?_of_apart apart there
  wellFormed _ := wellFormed

theorem Evolves.isFile_eq (directory : Location) (path : Path) :
    after.isFile directory path = before.isFile directory path :=
  Bool.eq_iff_iff.mpr ⟨(evolves.symm opens wellFormed).isFile, evolves.isFile⟩

end SameShape

end MemberDocs.Volume
