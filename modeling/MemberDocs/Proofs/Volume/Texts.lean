import MemberDocs.Proofs.Volume.Names
import MemberDocs.Proofs.Volume.Persistence

/-! # Paths as texts

A path that has been read from a text is read from its own text again (`ofString_text`), and what is made
of such paths is like them: paths that are joined, and the locations that they mean. A path as it is seen
from a directory means the same place (`resolve_seenFrom`), and leads to the same file
(`Volume.read_seenFrom`). If the place is below the directory, it leads straight down to it
(`seenFrom_of_below`).
-/

namespace MemberDocs

/-- A text that can be a name in a path. Two dots can, though they are the name of nothing. -/
structure IsName (name : String) : Prop where
  filled : name ≠ ""
  notDot : name ≠ "."
  plain : '/' ∉ name.toList

/-- A path whose names are names. -/
def Path.IsReadable (path : Path) : Prop :=
  ∀ name ∈ path.parts, IsName name

/-! ## Texts -/

theorem splitSlashes_append {first : List Char} (plain : '/' ∉ first) (second : List Char) :
    splitSlashes (first ++ '/' :: second) = first :: splitSlashes second := by
  induction first with
  | nil => rfl
  | cons c rest ih =>
    rw [List.mem_cons, not_or] at plain
    rw [List.cons_append, splitSlashes, if_neg (Ne.symm plain.1), ih plain.2]

theorem splitSlashes_intercalate {parts : List (List Char)} (some : parts ≠ [])
    (plain : ∀ part ∈ parts, '/' ∉ part) :
    splitSlashes (List.intercalate ['/'] parts) = parts := by
  induction parts with
  | nil => exact absurd rfl some
  | cons part rest ih =>
    obtain ⟨here, later⟩ := List.forall_mem_cons.mp plain
    cases rest with
    | nil => rw [List.intercalate_singleton, splitSlashes_of_not_mem here]
    | cons second more =>
      rw [List.intercalate_cons_cons, List.append_assoc, List.singleton_append,
        splitSlashes_append here, ih (List.cons_ne_nil second more) later]

namespace Path

variable {path : Path}

/-- Reading a path leaves out what is no name. -/
theorem isReadable_ofString (text : String) : (ofString text).IsReadable := by
  intro name among
  refine ⟨?_, ?_, not_mem_of_mem_parts among⟩
  all_goals
    obtain ⟨part, kept, rfl⟩ := List.mem_map.mp among
    have isPart := (List.mem_filter.mp kept).2
    simp only [ne_eq, decide_not, Bool.and_eq_true, Bool.not_eq_eq_eq_not, Bool.not_true,
      decide_eq_false_iff_not] at isPart
  · exact fun empty => isPart.1 (String.ofList_eq_empty_iff.mp empty)
  · exact fun dot => isPart.2 (String.ofList_injective dot)

theorem text_of_parts (some : path.parts ≠ []) :
    path.text.toList = path.anchor.text.toList ++
      List.intercalate ['/'] (path.parts.map String.toList) := by
  have notDot : (path.anchor = .relative && path.parts.isEmpty) = false := by simp [some]
  rw [text, notDot, if_neg Bool.false_ne_true, String.toList_append, String.toList_intercalate]
  rfl

/-- The names of a readable path do not begin with a slash. -/
theorem exists_intercalate (readable : path.IsReadable) (some : path.parts ≠ []) :
    ∃ c rest, List.intercalate ['/'] (path.parts.map String.toList) = c :: rest ∧ c ≠ '/' := by
  cases parts : path.parts with
  | nil => exact absurd parts some
  | cons name others =>
    obtain ⟨filled, -, plain⟩ := readable name (parts ▸ List.mem_cons_self)
    cases characters : name.toList with
    | nil => exact absurd (String.toList_eq_nil_iff.mp characters) filled
    | cons c rest =>
      have different : c ≠ '/' := fun same => plain (by simp [characters, same])
      cases others with
      | nil => exact ⟨c, rest, by simp [characters], different⟩
      | cons second more =>
        exact ⟨c, _, by rw [List.map_cons, List.map_cons, List.intercalate_cons_cons, characters]; rfl,
          different⟩

/-- The slashes in front of a name are read as the anchor that they stand for. -/
theorem ofChars_append {c : Char} (different : c ≠ '/') (anchor : Anchor) (rest : List Char) :
    Anchor.ofChars (anchor.text.toList ++ c :: rest) = anchor := by
  cases anchor with
  | relative =>
    change Anchor.ofChars (c :: rest) = .relative
    unfold Anchor.ofChars
    split <;> simp_all
  | top =>
    change Anchor.ofChars ('/' :: c :: rest) = .top
    unfold Anchor.ofChars
    split <;> simp_all
  | doubleTop =>
    change Anchor.ofChars ('/' :: '/' :: c :: rest) = .doubleTop
    simp [Anchor.ofChars, different]

/-- As names, the slashes of an anchor are left out. -/
theorem filter_splitSlashes_append (anchor : Anchor) (cs : List Char) :
    (splitSlashes (anchor.text.toList ++ cs)).filter (fun part => part ≠ [] && part ≠ ['.']) =
      (splitSlashes cs).filter (fun part => part ≠ [] && part ≠ ['.']) := by
  cases anchor <;> rfl

/-- **A path is read from its text.** -/
theorem ofString_text (readable : path.IsReadable) : ofString path.text = path := by
  obtain ⟨anchor, parts⟩ := path
  by_cases some : parts = []
  · subst some
    cases anchor <;> decide
  obtain ⟨c, rest, begins, different⟩ := exists_intercalate readable some
  have characters := @text_of_parts ⟨anchor, parts⟩ some
  have splits : splitSlashes (c :: rest) = parts.map String.toList := by
    rw [← begins]
    refine splitSlashes_intercalate (by simpa using some) fun part among => ?_
    obtain ⟨name, listed, rfl⟩ := List.mem_map.mp among
    exact (readable name listed).plain
  have kept : (parts.map String.toList).filter (fun part => part ≠ [] && part ≠ ['.']) =
      parts.map String.toList := by
    refine List.filter_eq_self.mpr fun part among => ?_
    obtain ⟨name, listed, rfl⟩ := List.mem_map.mp among
    obtain ⟨filled, notDot, -⟩ := readable name listed
    have notSingle : name.toList ≠ ['.'] := fun same => notDot (String.toList_inj.mp same)
    simp [filled, notSingle]
  have names : (parts.map String.toList).map String.ofList = parts := by simp
  unfold ofString
  rw [characters, begins]
  dsimp only
  rw [filter_splitSlashes_append, splits, kept, names, ofChars_append different]

/-! ## Paths that are made of others -/

theorem IsReadable.join {first second : Path} (readable : first.IsReadable)
    (others : second.IsReadable) : (first.join second).IsReadable := by
  unfold Path.join
  split
  next => exact List.forall_mem_append.mpr ⟨readable, others⟩
  next => exact others

theorem IsReadable.child (readable : path.IsReadable) {name : String} (named : IsName name) :
    (path.child name).IsReadable :=
  List.forall_mem_append.mpr ⟨readable, List.forall_mem_singleton.mpr named⟩

theorem IsReadable.parent (readable : path.IsReadable) : path.parent.IsReadable :=
  fun name among => readable name (List.dropLast_subset _ among)

/-- The stem of a readable path is a name once it has a suffix. -/
theorem IsReadable.suffixed_stem (readable : path.IsReadable) : IsName (path.stem ++ ".md") := by
  have long := two_lt_length_suffixed path.stem
  refine ⟨fun empty => ?_, fun dot => ?_, fun slash => ?_⟩
  · rw [empty] at long
    exact absurd long (by decide)
  · rw [dot] at long
    exact absurd long (by decide)
  · rw [String.toList_append, List.mem_append] at slash
    rcases slash with inStem | inSuffix
    · exact not_mem_stem_of_plain (fun name among => (readable name among).plain) inStem
    · exact absurd inSuffix (by decide)

end Path

/-! ## Locations -/

/-- The location that names lead to is a part of the way to the first one, and some of the names. -/
theorem exists_normalise_eq (location : Location) (names : List String) :
    ∃ k kept, normalise location names = location.take k ++ kept ∧ kept ⊆ names := by
  induction names generalizing location with
  | nil => exact ⟨location.length, [], by rw [normalise, List.take_length, List.append_nil], by simp⟩
  | cons name rest ih =>
    rw [normalise]
    split
    next =>
      obtain ⟨k, kept, same, among⟩ := ih location.dropLast
      refine ⟨min k (location.length - 1), kept, ?_, List.subset_cons_of_subset name among⟩
      rw [same, List.dropLast_eq_take, List.take_take]
    next =>
      obtain ⟨k, kept, same, among⟩ := ih (location ++ [name])
      rw [same]
      by_cases short : k ≤ location.length
      · exact ⟨k, kept, by rw [List.take_append_of_le_length short],
          List.subset_cons_of_subset name among⟩
      · refine ⟨location.length, name :: kept, ?_, List.cons_subset_cons name among⟩
        rw [List.take_of_length_le (by simp; omega), List.take_length, List.append_assoc,
          List.singleton_append]

/-- Below the first location, only the names lead. -/
theorem drop_normalise_subset (location : Location) (names : List String) :
    (normalise location names).drop location.length ⊆ names := by
  obtain ⟨k, kept, same, among⟩ := exists_normalise_eq location names
  have short : (location.take k).length ≤ location.length := List.length_take_le' k location
  rw [same, List.drop_append, List.drop_of_length_le short, List.nil_append]
  exact List.Subset.trans (List.drop_subset _ _) among

theorem mem_normalise {location : Location} {names : List String} {name : String}
    (among : name ∈ normalise location names) : name ∈ location ∨ name ∈ names := by
  obtain ⟨k, kept, same, listed⟩ := exists_normalise_eq location names
  rw [same, List.mem_append] at among
  exact among.imp (List.mem_of_mem_take ·) (listed ·)

namespace Path

variable {directory : Location} {path : Path}

theorem IsReadable.resolve (readable : path.IsReadable) (named : ∀ name ∈ directory, IsName name) :
    (ofLocation (path.resolve directory)).IsReadable := by
  intro name among
  rw [ofLocation, resolve_eq] at among
  rcases mem_normalise among with start | later
  · unfold Volume.startOf at start
    split at start
    next => exact named name start
    next => cases start
  · exact readable name later

/-! ## Paths as they are seen from a directory -/

/-- What lies below a directory is seen by the names that lead down to it. -/
theorem seenFrom_of_below (below : directory <+: path.resolve directory) :
    path.seenFrom directory = ⟨.relative, (path.resolve directory).drop directory.length⟩ :=
  if_pos (List.isPrefixOf_iff_prefix.mpr below)

theorem seenFrom_of_apart (apart : ¬ directory <+: path.resolve directory) :
    path.seenFrom directory = path :=
  if_neg fun below => apart (List.isPrefixOf_iff_prefix.mp below)

theorem parts_seenFrom_subset (directory : Location) (path : Path) :
    (path.seenFrom directory).parts ⊆ path.parts := by
  by_cases below : directory <+: path.resolve directory
  · rw [seenFrom_of_below below, resolve_eq]
    unfold Volume.startOf
    split
    next => exact drop_normalise_subset directory path.parts
    next => exact List.Subset.trans (List.drop_subset _ _) (drop_normalise_subset [] path.parts)
  · rw [seenFrom_of_apart below]
    exact List.Subset.refl _

theorem IsReadable.seenFrom (readable : path.IsReadable) (directory : Location) :
    (path.seenFrom directory).IsReadable :=
  fun name among => readable name (parts_seenFrom_subset directory path among)

theorem not_mem_resolve (plain : ".." ∉ directory) (path : Path) :
    ".." ∉ path.resolve directory := by
  rw [resolve_eq]
  unfold Volume.startOf
  split
  next => exact not_mem_normalise plain _
  next => exact not_mem_normalise List.not_mem_nil _

/-- A path means the same place as it is seen from a directory. -/
theorem resolve_seenFrom (plain : ".." ∉ directory) (path : Path) :
    (path.seenFrom directory).resolve directory = path.resolve directory := by
  by_cases below : directory <+: path.resolve directory
  · obtain ⟨names, meant⟩ := below
    have straight : ".." ∉ names := by
      have all := not_mem_resolve plain path
      rw [← meant, List.mem_append, not_or] at all
      exact all.2
    rw [seenFrom_of_below ⟨names, meant⟩, ← meant, List.drop_left]
    exact normalise_of_plain straight directory
  · rw [seenFrom_of_apart below]

end Path

/-- A file can be read by the path as it is seen from the working directory. -/
theorem Volume.read_seenFrom {volume : Volume} {directory : Location} {path : Path}
    {content : List UInt8} (sound : volume.WellFormedAt directory)
    (done : volume.read directory path = .ok content) :
    volume.read directory (path.seenFrom directory) = .ok content := by
  obtain ⟨noNull, -, there⟩ := read_eq_ok_iff.mp done
  by_cases below : directory <+: path.resolve directory
  · have plain := sound.wellFormed.not_mem_of_get? sound.inside
    have meant := Path.resolve_seenFrom plain path
    refine read_eq_ok_iff.mpr ⟨?_, ?_, by rw [meant, there]⟩
    · rw [← Bool.not_eq_true, Path.hasNull, List.any_eq_true] at noNull ⊢
      rintro ⟨name, among, holds⟩
      exact noNull ⟨name, Path.parts_seenFrom_subset directory path among, holds⟩
    · obtain ⟨names, same⟩ := below
      rw [meant, Path.seenFrom_of_below ⟨names, same⟩, ← same, List.drop_left]
      rw [← same] at there
      exact sound.wellFormed.follow_of_get? there
  · rwa [Path.seenFrom_of_apart below]

end MemberDocs
