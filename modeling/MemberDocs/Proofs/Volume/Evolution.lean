import MemberDocs.Proofs.Volume.Route

/-! # How volumes change

Nothing that the program does removes anything: directories stay directories, files stay files, and
files are made or changed at some locations only (`Volume.Evolves`). Making directories changes no
file (`evolves_ensureDirectories`), and writing changes the one that is written
(`evolves_of_write`).
-/

namespace MemberDocs.Volume

/-- One volume follows from another one by making directories, making files at the `made` locations,
and changing files at the `changed` ones. -/
structure Evolves (made changed : Location → Prop) (before after : Volume) : Prop where
  directories : ∀ location, before.get? location = some .directory →
    after.get? location = some .directory
  files : ∀ location content, before.get? location = some (.file content) →
    ∃ later, after.get? location = some (.file later)
  fresh : ∀ location content, ¬ made location → after.get? location = some (.file content) →
    ∃ earlier, before.get? location = some (.file earlier)
  unchanged : ∀ location content, ¬ changed location →
    after.get? location = some (.file content) → before.get? location = some (.file content)
  wellFormed : before.WellFormed → after.WellFormed

/-- One volume follows from another one by making directories alone. -/
abbrev MakesDirectories : Volume → Volume → Prop := Evolves (fun _ => False) (fun _ => False)

namespace Evolves

variable {made changed moreMade moreChanged : Location → Prop} {first second third : Volume}

theorem refl (made changed : Location → Prop) (volume : Volume) :
    Evolves made changed volume volume :=
  ⟨fun _ => id, fun _ content found => ⟨content, found⟩, fun _ content _ found => ⟨content, found⟩,
    fun _ _ _ => id, id⟩

theorem mono (evolves : Evolves made changed first second)
    (makes : ∀ location, made location → moreMade location)
    (changes : ∀ location, changed location → moreChanged location) :
    Evolves moreMade moreChanged first second :=
  ⟨evolves.directories, evolves.files,
    fun location content apart => evolves.fresh location content fun hit =>
      apart (makes location hit),
    fun location content apart => evolves.unchanged location content fun hit =>
      apart (changes location hit),
    evolves.wellFormed⟩

theorem trans (before : Evolves made changed first second)
    (after : Evolves made changed second third) : Evolves made changed first third := by
  refine ⟨fun location isDirectory => after.directories _ (before.directories _ isDirectory), ?_, ?_,
    fun location content apart found =>
      before.unchanged location content apart (after.unchanged location content apart found),
    fun wellFormed => after.wellFormed (before.wellFormed wellFormed)⟩
  · intro location content found
    obtain ⟨later, stays⟩ := before.files location content found
    exact after.files location later stays
  · intro location content apart found
    obtain ⟨between, was⟩ := after.fresh location content apart found
    exact before.fresh location between apart was

/-- No file is made if all that are made were there already. -/
theorem of_existing (evolves : Evolves made changed first second)
    (there : ∀ location, made location → ∃ content, first.get? location = some (.file content)) :
    Evolves (fun _ => False) changed first second := by
  refine ⟨evolves.directories, evolves.files, ?_, evolves.unchanged, evolves.wellFormed⟩
  intro location content _ found
  by_cases hit : made location
  · exact there location hit
  · exact evolves.fresh location content hit found

/-- A file that is not changed holds what it held. -/
theorem get?_of_apart (evolves : Evolves made changed first second) {location : Location}
    {content : List UInt8} (apart : ¬ changed location)
    (found : first.get? location = some (.file content)) :
    second.get? location = some (.file content) := by
  obtain ⟨later, stays⟩ := evolves.files location content found
  have same := evolves.unchanged location later apart stays
  rwa [Option.some.inj (found.symm.trans same)]

theorem wellFormedAt (evolves : Evolves made changed first second) {directory : Location}
    (sound : first.WellFormedAt directory) : second.WellFormedAt directory :=
  ⟨evolves.wellFormed sound.wellFormed, evolves.directories _ sound.inside⟩

/-- There is a file where none is made if and only if there was one. -/
theorem exists_file_iff (evolves : Evolves made changed first second) {location : Location}
    (apart : ¬ made location) :
    (∃ content, second.get? location = some (.file content)) ↔
      ∃ content, first.get? location = some (.file content) :=
  ⟨fun ⟨content, found⟩ => evolves.fresh location content apart found,
    fun ⟨content, found⟩ => evolves.files location content found⟩

end Evolves

variable {volume after : Volume} {directory : Location}

/-- A file or a directory that is put where no directory is. -/
theorem evolves_put {location : Location} {entry : FileEntry} (notTop : location ≠ [])
    (named : ".." ∉ location) (above : volume.get? location.dropLast = some .directory)
    (notDirectory : volume.get? location ≠ some .directory)
    (noFile : entry = .directory → volume.get? location = none) :
    Evolves (fun other => other = location ∧ entry ≠ .directory)
      (fun other => other = location ∧ entry ≠ .directory) volume (volume.put location entry) := by
  -- No file is made elsewhere, and none is changed.
  have elsewhere {other : Location} {content : List UInt8}
      (apart : ¬ (other = location ∧ entry ≠ .directory))
      (found : (volume.put location entry).get? other = some (.file content)) :
      volume.get? other = some (.file content) := by
    by_cases same : other = location
    · subst same
      rw [get?_put_self _ notTop] at found
      obtain rfl := Option.some.inj found
      exact absurd ⟨rfl, by simp⟩ apart
    · rwa [get?_put_of_ne _ same] at found
  refine ⟨?_, ?_, fun _ content apart found => ⟨content, elsewhere apart found⟩,
    fun _ _ apart found => elsewhere apart found,
    fun wellFormed => wellFormed.put notTop named above notDirectory entry⟩
  · intro other isDirectory
    have different : other ≠ location := fun same => notDirectory (same ▸ isDirectory)
    rw [get?_put_of_ne _ different, isDirectory]
  · intro other content found
    by_cases same : other = location
    · subst same
      cases entry with
      | file later => exact ⟨later, get?_put_self _ notTop _⟩
      | directory => simp [noFile rfl] at found
    · exact ⟨content, by rw [get?_put_of_ne _ same, found]⟩

/-! ## Writing -/

theorem put_of_write {path : Path} {content : List UInt8}
    (written : volume.write directory path content = .ok after) :
    after = volume.put (path.resolve directory) (.file content) ∧
      volume.target directory path = .ok (path.resolve directory) ∧
      volume.get? (path.resolve directory) ≠ some .directory := by
  unfold write at written
  split at written
  · cases written
  · cases targeted : volume.target directory path with
    | error reason => simp [targeted] at written
    | ok location =>
      have meant := target_eq_resolve targeted
      subst meant
      simp only [targeted] at written
      split at written
      next => cases written
      next notDirectory => exact ⟨(Except.ok.inj written).symm, rfl, notDirectory⟩

section WellFormedAt

variable (sound : volume.WellFormedAt directory)

include sound

/-- Writing changes the file that is written and no other one. -/
theorem evolves_of_write {path : Path} {content : List UInt8}
    (written : volume.write directory path content = .ok after) :
    Evolves (· = path.resolve directory) (· = path.resolve directory) volume after ∧
      after.get? (path.resolve directory) = some (.file content) := by
  obtain ⟨rfl, targeted, notDirectory⟩ := put_of_write written
  rcases sound.target_spec targeted with isDirectory | ⟨notTop, named, above⟩
  · exact absurd isDirectory notDirectory
  · refine ⟨?_, get?_put_self _ notTop _⟩
    exact (evolves_put notTop named above notDirectory (by simp)).mono
      (fun _ hit => hit.1) fun _ hit => hit.1

/-! ## Making directories -/

theorem evolves_of_makeDirectory {path : Path}
    (made : volume.makeDirectory directory path = .ok after) :
    MakesDirectories volume after := by
  unfold makeDirectory at made
  cases targeted : volume.target directory path with
  | error reason => simp [targeted] at made
  | ok location =>
    cases there : volume.get? location with
    | some entry => simp [targeted, there] at made
    | none =>
      obtain rfl : volume.put location .directory = after := by
        simpa [targeted, there] using made
      rcases sound.target_spec targeted with isDirectory | ⟨notTop, named, above⟩
      · simp [there] at isDirectory
      · exact (evolves_put notTop named above (by simp [there]) fun _ => there).mono
          (fun _ hit => hit.2 rfl) fun _ hit => hit.2 rfl

theorem evolves_ensureDirectory (path : Path) :
    MakesDirectories volume (volume.ensureDirectory directory path).1 := by
  unfold ensureDirectory
  split
  next made => exact evolves_of_makeDirectory sound made
  next => split <;> exact .refl _ _ volume

theorem evolves_ensureChain (anchor : Anchor) (names : List String) :
    MakesDirectories volume (volume.ensureChain directory anchor names).1 := by
  induction names with
  | nil => exact .refl _ _ volume
  | cons name above ih =>
    unfold ensureChain
    simp only
    split
    · split
      next chain =>
        rw [chain] at ih
        exact ih
      next made chain =>
        have first : MakesDirectories volume made := by
          rw [chain] at ih
          exact ih
        exact first.trans (evolves_ensureDirectory (first.wellFormedAt sound) _)
    · exact evolves_ensureDirectory sound _

/-- Making directories changes no file. -/
theorem evolves_ensureDirectories (path : Path) :
    MakesDirectories volume (volume.ensureDirectories directory path).1 := by
  unfold ensureDirectories
  split
  · exact .refl _ _ volume
  · exact evolves_ensureChain sound _ _

end WellFormedAt

/-! ## Directories that have been made -/

theorem get?_of_ensureDirectory {path : Path}
    (made : volume.ensureDirectory directory path = (after, none)) :
    after.get? (path.resolve directory) = some .directory := by
  unfold ensureDirectory at made
  split at made
  next other fresh =>
    obtain rfl : other = after := congrArg Prod.fst made
    unfold makeDirectory at fresh
    cases targeted : volume.target directory path with
    | error reason => simp [targeted] at fresh
    | ok location =>
      have meant := target_eq_resolve targeted
      subst meant
      cases there : volume.get? (path.resolve directory) with
      | some entry => simp [targeted, there] at fresh
      | none =>
        obtain rfl : volume.put (path.resolve directory) .directory = other := by
          simpa [targeted, there] using fresh
        have notTop : path.resolve directory ≠ [] := by
          intro top
          simp [top] at there
        exact get?_put_self _ notTop _
  next =>
    split at made
    next old =>
      obtain rfl : volume = after := congrArg Prod.fst made
      have isDirectory : volume.isDirectory directory path := by simp_all
      exact get?_of_status (by simpa [isDirectory, Volume.isDirectory] using isDirectory)
    next => simp at made

/-- A path that has been made a directory with those above it leads to one. -/
theorem get?_of_ensureDirectories (sound : volume.WellFormedAt directory) {path : Path}
    (made : volume.ensureDirectories directory path = (after, none)) :
    after.get? (path.resolve directory) = some .directory := by
  unfold ensureDirectories at made
  split at made
  · simp at made
  · cases names : path.parts.reverse with
    | nil =>
      have noParts : path.parts = [] := List.reverse_eq_nil_iff.mp names
      rw [names, ensureChain] at made
      obtain rfl : volume = after := congrArg Prod.fst made
      rw [Path.resolve_eq, noParts]
      exact sound.get?_startOf path
    | cons name above =>
      have same : (⟨path.anchor, (name :: above).reverse⟩ : Path) = path := by
        rw [← names, List.reverse_reverse]
      rw [names, ensureChain] at made
      simp only [same] at made
      split at made
      · split at made
        · simp at made
        · exact get?_of_ensureDirectory made
      · exact get?_of_ensureDirectory made

end MemberDocs.Volume
