import MemberDocs.Proofs.Volume.Directories

/-! # Files on the way of a path

A path leads through directories only (`isDirectory_of_onTheWay`), so a file on its way is in the way.
Nothing else is: a directory can be made with those above it exactly if no file is on the way that leads
there (`exists_ensureDirectories_iff`).
-/

namespace MemberDocs.Volume

variable {volume after : Volume} {directory : Location} {path : Path}

/-- Some of the first names of a path lead to a file, or all of them. -/
def FileOnTheWay (volume : Volume) (directory : Location) (path : Path) : Prop :=
  ∃ location content, OnTheWay directory path location ∧
    volume.get? location = some (.file content)

theorem fileOnTheWay_of_names {names : List String} {content : List UInt8}
    (first : names <+: path.parts)
    (there : volume.get? (normalise (startOf directory path) names) = some (.file content)) :
    volume.FileOnTheWay directory path :=
  ⟨_, content, ⟨names, first, (Path.resolve_eq directory ⟨path.anchor, names⟩).symm⟩, there⟩

/-! ## Through directories -/

/-- What leads on to further names is a directory. -/
theorem WellFormed.follow_split (wellFormed : volume.WellFormed) {start reached : Location}
    {first second : List String} (isDirectory : volume.get? start = some .directory)
    (onwards : second ≠ []) (followed : volume.follow start (first ++ second) = .ok reached) :
    volume.get? (normalise start first) = some .directory := by
  induction first generalizing start with
  | nil => exact isDirectory
  | cons part rest ih =>
    rw [List.cons_append, follow] at followed
    rw [normalise]
    by_cases up : part = ".."
    · rw [if_pos up] at followed ⊢
      exact ih (wellFormed.get?_dropLast isDirectory) followed
    · rw [if_neg up] at followed ⊢
      split at followed
      next => cases followed
      next found => exact ih found followed
      next content found => simp [onwards] at followed

/-- The way to a directory leads through directories. -/
theorem WellFormedAt.isDirectory_of_onTheWay (sound : volume.WellFormedAt directory)
    (there : volume.isDirectory directory path) {location : Location}
    (onTheWay : OnTheWay directory path location) : volume.get? location = some .directory := by
  obtain ⟨-, located, found⟩ := status_eq_some_iff.mp (of_decide_eq_true there)
  obtain ⟨names, ⟨rest, split⟩, rfl⟩ := onTheWay
  by_cases last : rest = []
  · rw [last, List.append_nil] at split
    rwa [split]
  · rw [Path.resolve_eq]
    unfold locate at located
    rw [← split] at located
    exact sound.wellFormed.follow_split (sound.get?_startOf path) last located

theorem WellFormedAt.not_fileOnTheWay (sound : volume.WellFormedAt directory)
    (there : volume.isDirectory directory path) : ¬ volume.FileOnTheWay directory path := by
  rintro ⟨location, content, onTheWay, isFile⟩
  rw [sound.isDirectory_of_onTheWay there onTheWay] at isFile
  cases isFile

theorem Evolves.not_fileOnTheWay {changed : Location → Prop}
    (evolves : Evolves (fun _ => False) changed volume after)
    (clear : ¬ volume.FileOnTheWay directory path) : ¬ after.FileOnTheWay directory path := by
  rintro ⟨location, content, onTheWay, isFile⟩
  obtain ⟨earlier, was⟩ := evolves.fresh location content id isFile
  exact clear ⟨location, earlier, onTheWay, was⟩

/-- A name in a directory can be written. -/
theorem exists_target_of_isDirectory {names : List String} {anchor : Anchor} (name : String)
    (above : volume.isDirectory directory ⟨anchor, names⟩) :
    ∃ location, volume.target directory ⟨anchor, names ++ [name]⟩ = .ok location := by
  obtain ⟨-, located, found⟩ := status_eq_some_iff.mp (of_decide_eq_true above)
  have same : startOf directory (⟨anchor, names ++ [name]⟩ : Path) =
      startOf directory ⟨anchor, names⟩ := rfl
  unfold locate at located
  unfold target
  simp only [List.getLast?_append, List.getLast?_singleton, Option.some_or, List.dropLast_concat,
    same, located, found, ↓reduceIte]
  split
  next up =>
    refine ⟨((⟨anchor, names⟩ : Path).resolve directory).dropLast, ?_⟩
    unfold locate
    rw [same, follow_append located found, follow, if_pos up, follow]
  next => exact ⟨_, rfl⟩

/-! ## Making directories where no file is in the way -/

/-- Following stops at something that is missing, or at a file. -/
theorem missing_or_file_of_follow {start : Location} {parts : List String} {reason : FileReason}
    (stopped : volume.follow start parts = .error reason) :
    reason = .missing ∨ ∃ names content, names <+: parts ∧
      volume.get? (normalise start names) = some (.file content) := by
  induction parts generalizing start with
  | nil => cases stopped
  | cons part rest ih =>
    have onwards (next : Location) (same : normalise start [part] = next)
        (stopped : volume.follow next rest = .error reason) :
        reason = .missing ∨ ∃ names content, names <+: part :: rest ∧
          volume.get? (normalise start names) = some (.file content) := by
      rcases ih stopped with missing | ⟨names, content, first, isFile⟩
      · exact Or.inl missing
      · refine Or.inr ⟨part :: names, content, List.prefix_cons_inj part |>.mpr first, ?_⟩
        rw [← List.singleton_append, normalise_append, same, isFile]
    rw [follow] at stopped
    by_cases up : part = ".."
    · rw [if_pos up] at stopped
      exact onwards _ (by simp [normalise, up]) stopped
    · rw [if_neg up] at stopped
      have straight : normalise start [part] = start ++ [part] := by simp [normalise, up]
      split at stopped
      next => exact Or.inl (Except.error.inj stopped).symm
      next => exact onwards _ straight stopped
      next content isFile =>
        exact Or.inr ⟨[part], content, List.prefix_append [part] rest, straight ▸ isFile⟩

section WellFormedAt

variable (sound : volume.WellFormedAt directory)

include sound

/-- Where no file is on the way, only what is missing can stop a path from being written. -/
theorem missing_of_target (clear : ¬ volume.FileOnTheWay directory path) {reason : FileReason}
    (stopped : volume.target directory path = .error reason) : reason = .missing := by
  unfold target at stopped
  split at stopped
  next => cases stopped
  next name _ =>
    split at stopped
    next =>
      rcases missing_or_file_of_follow stopped with missing | ⟨names, content, first, isFile⟩
      · exact missing
      · exact absurd (fileOnTheWay_of_names first isFile) clear
    next =>
      have short := List.dropLast_prefix path.parts
      cases followed : volume.follow (startOf directory path) path.parts.dropLast with
      | error other =>
        obtain rfl : other = reason := by simpa [followed] using stopped
        rcases missing_or_file_of_follow followed with missing | ⟨names, content, first, isFile⟩
        · exact missing
        · exact absurd (fileOnTheWay_of_names (first.trans short) isFile) clear
      | ok location =>
        rcases sound.wellFormed.follow_spec (sound.get?_startOf path) followed with
          isDirectory | ⟨⟨content, isFile⟩, -⟩
        · simp [followed, isDirectory] at stopped
        · rw [follow_eq_normalise followed] at isFile
          exact absurd (fileOnTheWay_of_names short isFile) clear

/-- A directory that cannot be made is there, unless something above it is missing. -/
theorem isDirectory_of_makeDirectory (noNull : path.hasNull = false)
    (clear : ¬ volume.FileOnTheWay directory path) {reason : FileReason}
    (stopped : volume.makeDirectory directory path = .error reason) (other : reason ≠ .missing) :
    volume.isDirectory directory path := by
  unfold makeDirectory at stopped
  cases targeted : volume.target directory path with
  | error before =>
    obtain rfl : before = reason := by simpa [targeted] using stopped
    exact absurd (missing_of_target sound clear targeted) other
  | ok location =>
    have meant := target_eq_resolve targeted
    subst meant
    cases there : volume.get? (path.resolve directory) with
    | none => simp [targeted, there] at stopped
    | some entry =>
      cases entry with
      | directory =>
        exact decide_eq_true
          (status_eq_some_iff.mpr ⟨noNull, locate_of_target targeted there, there⟩)
      | file content =>
        rw [Path.resolve_eq] at there
        exact absurd (fileOnTheWay_of_names List.prefix_rfl there) clear

theorem exists_ensureDirectory (noNull : path.hasNull = false)
    (clear : ¬ volume.FileOnTheWay directory path)
    (reachable : volume.makeDirectory directory path ≠ .error .missing) :
    ∃ made, volume.ensureDirectory directory path = (made, none) := by
  unfold ensureDirectory
  cases making : volume.makeDirectory directory path with
  | ok made => exact ⟨made, rfl⟩
  | error reason =>
    have other : reason ≠ .missing := by
      rintro rfl
      exact reachable making
    have there := isDirectory_of_makeDirectory sound noNull clear making other
    exact ⟨volume, by simp [other, there]⟩

/-- Directories are made from the first that is missing on. -/
theorem exists_ensureDirectories {names : List String} {anchor : Anchor}
    (noNull : (⟨anchor, names⟩ : Path).hasNull = false)
    (clear : ¬ volume.FileOnTheWay directory ⟨anchor, names⟩) :
    ∃ made, volume.ensureDirectories directory ⟨anchor, names⟩ = (made, none) := by
  induction names using List.reverseRecOn with
  | nil => exact ⟨volume, by simp [ensureDirectories, noNull, ensureChain]⟩
  | append_singleton above name ih =>
    have noNullAbove : (⟨anchor, above⟩ : Path).hasNull = false := by
      simp only [Path.hasNull, List.any_append, Bool.or_eq_false_iff] at noNull ⊢
      exact noNull.1
    have clearAbove : ¬ volume.FileOnTheWay directory ⟨anchor, above⟩ := by
      rintro ⟨location, content, ⟨names, first, meant⟩, isFile⟩
      exact clear ⟨location, content,
        ⟨names, first.trans (List.prefix_append above [name]), meant⟩, isFile⟩
    obtain ⟨made, ensured⟩ := ih noNullAbove clearAbove
    have chain : volume.ensureChain directory anchor above.reverse = (made, none) := by
      rw [← ensured, ensureDirectories, noNullAbove]
      rfl
    have own : (⟨anchor, (name :: above.reverse).reverse⟩ : Path) = ⟨anchor, above ++ [name]⟩ := by
      simp
    rw [ensureDirectories, noNull]
    simp only [Bool.false_eq_true, ↓reduceIte, List.reverse_append, List.reverse_singleton,
      List.singleton_append, ensureChain, own, chain]
    split
    next =>
      have makes : MakesDirectories volume made := by
        have evolves := evolves_ensureDirectories sound ⟨anchor, above⟩
        rwa [ensured] at evolves
      have soundMade := makes.wellFormedAt sound
      refine exists_ensureDirectory soundMade noNull (makes.not_fileOnTheWay clear) ?_
      obtain ⟨location, targeted⟩ := exists_target_of_isDirectory name
        (isDirectory_of_ensureDirectories sound ensured)
      unfold makeDirectory
      rw [targeted]
      dsimp only
      split <;> simp
    next reachable => exact exists_ensureDirectory sound noNull clear reachable

/-- A directory can be made with those above it exactly if no file is in the way. -/
theorem exists_ensureDirectories_iff :
    (∃ made, volume.ensureDirectories directory path = (made, none)) ↔
      path.hasNull = false ∧ ¬ volume.FileOnTheWay directory path := by
  constructor
  · rintro ⟨made, ensured⟩
    have makes : MakesDirectories volume made := by
      have evolves := evolves_ensureDirectories sound path
      rwa [ensured] at evolves
    refine ⟨?_, ?_⟩
    · unfold ensureDirectories at ensured
      split at ensured
      next => simp at ensured
      next noNull => simpa using noNull
    · rintro ⟨location, content, onTheWay, isFile⟩
      obtain ⟨later, stays⟩ := makes.files location content isFile
      exact (makes.wellFormedAt sound).not_fileOnTheWay
        (isDirectory_of_ensureDirectories sound ensured) ⟨location, later, onTheWay, stays⟩
  · rintro ⟨noNull, clear⟩
    exact exists_ensureDirectories sound noNull clear

end WellFormedAt

end MemberDocs.Volume
