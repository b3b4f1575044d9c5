import Mathlib.Data.List.Infix
import MemberDocs.Proofs.Volume.Directories

/-! # Volumes without a file

A volume can be looked at as if one file were not there (`Volume.without`). Every operation with a path
that the file is not on the way of does the same there, and leaves behind what it leaves behind in the
whole volume, but for that file (`read_without`, `write_without`, `ensureDirectories_without`).
-/

namespace MemberDocs.Volume

instance (directory : Location) (path : Path) (location : Location) :
    Decidable (OnTheWay directory path location) :=
  decidable_of_iff (∃ names ∈ path.parts.inits,
      location = (⟨path.anchor, names⟩ : Path).resolve directory)
    (by simp only [OnTheWay, List.mem_inits])

/-- The volume without what is at a location. -/
def without (volume : Volume) (location : Location) : Volume :=
  ⟨volume.entries.filter (·.1 ≠ location)⟩

section

variable (volume : Volume) {location other : Location}

theorem get?_without_of_ne (different : other ≠ location) :
    (volume.without location).get? other = volume.get? other := by
  by_cases top : other = []
  · rw [top, get?_top, get?_top]
  · rw [get?_of_ne_top _ top, get?_of_ne_top _ top, without,
      lookup_filter_key fun key => decide (key ≠ location)]
    simp [different]

theorem without_put_self (entry : FileEntry) :
    (volume.put location entry).without location = volume.without location := by
  simp [without, put, List.filter_filter]

theorem without_put_of_ne (different : other ≠ location) (entry : FileEntry) :
    (volume.put other entry).without location = (volume.without location).put other entry := by
  simp only [without, put, List.filter_cons, different, ne_eq, not_false_eq_true, decide_true,
    ↓reduceIte, List.filter_filter, Bool.and_comm]

/-- Where nothing is, nothing is left out. -/
theorem without_of_absent (absent : volume.get? location = none) :
    volume.without location = volume := by
  have notTop : location ≠ [] := by
    rintro rfl
    cases absent
  rw [get?_of_ne_top _ notTop, List.lookup_eq_none_iff] at absent
  have kept : volume.entries.filter (·.1 ≠ location) = volume.entries := by
    apply List.filter_eq_self.mpr
    intro entry listed
    have different := absent entry listed
    exact decide_eq_true fun same => by simp [same] at different
  rw [without, kept]

end

variable {volume : Volume} {directory location : Location} {path : Path}

/-- The names of a path that a location is not on the way of do not pass it. -/
theorem normalise_ne_of_apart (apart : ¬ OnTheWay directory path location) {names : List String}
    (first : names <+: path.parts) : normalise (startOf directory path) names ≠ location := by
  intro passed
  refine apart ⟨names, first, ?_⟩
  rw [← passed, Path.resolve_eq]
  rfl

theorem follow_without {start : Location} {parts : List String}
    (apart : ∀ names, names <+: parts → normalise start names ≠ location) :
    (volume.without location).follow start parts = volume.follow start parts := by
  induction parts generalizing start with
  | nil => rfl
  | cons part rest ih =>
    have later (next : Location) (step : ∀ names, normalise start (part :: names) =
        normalise next names) :
        (volume.without location).follow next rest = volume.follow next rest := by
      apply ih
      intro names first
      rw [← step]
      exact apart _ (List.cons_prefix_cons.mpr ⟨rfl, first⟩)
    rw [follow, follow]
    by_cases up : part = ".."
    · rw [if_pos up, if_pos up]
      exact later _ fun names => by rw [normalise, if_pos up]
    · have here : start ++ [part] ≠ location := by
        have passed := apart [part] (List.cons_prefix_cons.mpr ⟨rfl, List.nil_prefix⟩)
        rwa [normalise, if_neg up, normalise] at passed
      rw [if_neg up, if_neg up, volume.get?_without_of_ne here]
      rw [later _ fun names => by rw [normalise, if_neg up]]

theorem locate_without (apart : ¬ OnTheWay directory path location) :
    (volume.without location).locate directory path = volume.locate directory path :=
  follow_without fun _ => normalise_ne_of_apart apart

theorem resolve_ne_of_apart (apart : ¬ OnTheWay directory path location) :
    path.resolve directory ≠ location := by
  rw [Path.resolve_eq]
  exact normalise_ne_of_apart apart List.prefix_rfl

theorem status_without (apart : ¬ OnTheWay directory path location) :
    (volume.without location).status directory path = volume.status directory path := by
  unfold status
  rw [locate_without apart]
  cases located : volume.locate directory path with
  | error reason => rfl
  | ok reached =>
    have different : reached ≠ location := locate_eq_resolve located ▸ resolve_ne_of_apart apart
    dsimp only
    rw [volume.get?_without_of_ne different]

theorem hasPath_without (apart : ¬ OnTheWay directory path location) :
    (volume.without location).hasPath directory path = volume.hasPath directory path := by
  rw [hasPath, hasPath, status_without apart]

theorem isFile_without (apart : ¬ OnTheWay directory path location) :
    (volume.without location).isFile directory path = volume.isFile directory path := by
  rw [isFile, isFile, status_without apart]

theorem isDirectory_without (apart : ¬ OnTheWay directory path location) :
    (volume.without location).isDirectory directory path = volume.isDirectory directory path := by
  rw [isDirectory, isDirectory, status_without apart]

theorem read_without (apart : ¬ OnTheWay directory path location) :
    (volume.without location).read directory path = volume.read directory path := by
  unfold read
  rw [locate_without apart]
  cases located : volume.locate directory path with
  | error reason => rfl
  | ok reached =>
    have different : reached ≠ location := locate_eq_resolve located ▸ resolve_ne_of_apart apart
    dsimp only
    rw [volume.get?_without_of_ne different]

theorem target_without (apart : ¬ OnTheWay directory path location) :
    (volume.without location).target directory path = volume.target directory path := by
  unfold target
  split
  next => rfl
  next name last =>
    split
    next => exact locate_without apart
    next =>
      have short : path.parts.dropLast <+: path.parts := List.dropLast_prefix path.parts
      rw [follow_without fun names first => normalise_ne_of_apart apart (first.trans short)]
      cases followed : volume.follow (startOf directory path) path.parts.dropLast with
      | error reason => rfl
      | ok reached =>
        have different : reached ≠ location :=
          follow_eq_normalise followed ▸ normalise_ne_of_apart apart short
        dsimp only
        rw [volume.get?_without_of_ne different]

theorem write_without (apart : ¬ OnTheWay directory path location) (content : List UInt8) :
    (volume.without location).write directory path content =
      (volume.write directory path content).map (·.without location) := by
  unfold write
  rw [target_without apart]
  split
  next => rfl
  next =>
    cases targeted : volume.target directory path with
    | error reason => rfl
    | ok reached =>
      have different : reached ≠ location := target_eq_resolve targeted ▸ resolve_ne_of_apart apart
      dsimp only
      rw [volume.get?_without_of_ne different]
      split
      next => rfl
      next => rw [Except.map, volume.without_put_of_ne different]

theorem makeDirectory_without (apart : ¬ OnTheWay directory path location) :
    (volume.without location).makeDirectory directory path =
      (volume.makeDirectory directory path).map (·.without location) := by
  unfold makeDirectory
  rw [target_without apart]
  cases targeted : volume.target directory path with
  | error reason => rfl
  | ok reached =>
    have different : reached ≠ location := target_eq_resolve targeted ▸ resolve_ne_of_apart apart
    dsimp only
    rw [volume.get?_without_of_ne different]
    split
    next => rfl
    next => rw [Except.map, volume.without_put_of_ne different]

theorem ensureDirectory_without (apart : ¬ OnTheWay directory path location) :
    (volume.without location).ensureDirectory directory path =
      ((volume.ensureDirectory directory path).1.without location,
        (volume.ensureDirectory directory path).2) := by
  unfold ensureDirectory
  rw [makeDirectory_without apart, isDirectory_without apart]
  cases volume.makeDirectory directory path with
  | ok made => rfl
  | error reason =>
    dsimp only [Except.map]
    split <;> rfl

theorem ensureChain_without {anchor : Anchor} {names : List String}
    (apart : ¬ OnTheWay directory ⟨anchor, names.reverse⟩ location) :
    (volume.without location).ensureChain directory anchor names =
      ((volume.ensureChain directory anchor names).1.without location,
        (volume.ensureChain directory anchor names).2) := by
  induction names with
  | nil => rfl
  | cons name above ih =>
    have shorter : ¬ OnTheWay directory ⟨anchor, above.reverse⟩ location := by
      rintro ⟨names, first, passed⟩
      refine apart ⟨names, first.trans ?_, passed⟩
      rw [List.reverse_cons]
      exact List.prefix_append _ _
    rw [ensureChain, ensureChain, makeDirectory_without apart]
    cases volume.makeDirectory directory ⟨anchor, (name :: above).reverse⟩ with
    | ok made => exact ensureDirectory_without apart
    | error reason =>
      cases reason with
      | missing =>
        dsimp only [Except.map]
        rw [ih shorter]
        cases ensured : volume.ensureChain directory anchor above with
        | mk made fault =>
          cases fault with
          | some fault => rfl
          | none => exact ensureDirectory_without apart
      | «exists» | notDirectory | isDirectory => exact ensureDirectory_without apart

theorem ensureDirectories_without (apart : ¬ OnTheWay directory path location) :
    (volume.without location).ensureDirectories directory path =
      ((volume.ensureDirectories directory path).1.without location,
        (volume.ensureDirectories directory path).2) := by
  unfold ensureDirectories
  split
  next => rfl
  next =>
    apply ensureChain_without
    rw [List.reverse_reverse]
    exact apart

end MemberDocs.Volume
