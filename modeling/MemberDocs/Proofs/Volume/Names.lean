import MemberDocs.Proofs.Volume.Route

/-! # Names in a directory

A name that is taken from a path is free of slashes, so with a suffix it is again one name and leads
neither up nor elsewhere: however a path is written, the file that is named after it is in the
directory itself (`join_suffixed_stem`, `resolve_suffixed`).
-/

namespace MemberDocs

theorem splitSlashes_of_not_mem {chars : List Char} (plain : '/' ∉ chars) :
    splitSlashes chars = [chars] := by
  induction chars with
  | nil => rfl
  | cons c rest ih =>
    rw [List.mem_cons, not_or] at plain
    rw [splitSlashes, if_neg (Ne.symm plain.1), ih plain.2]

theorem not_mem_of_mem_splitSlashes {chars part : List Char} (among : part ∈ splitSlashes chars) :
    '/' ∉ part := by
  induction chars generalizing part with
  | nil =>
    obtain rfl := List.mem_singleton.mp among
    exact List.not_mem_nil
  | cons c rest ih =>
    rw [splitSlashes] at among
    by_cases slash : c = '/'
    · rw [if_pos slash, List.mem_cons] at among
      rcases among with rfl | later
      · exact List.not_mem_nil
      · exact ih later
    · rw [if_neg slash] at among
      split at among
      next =>
        obtain rfl := List.mem_singleton.mp among
        simpa using Ne.symm slash
      next first parts split =>
        rw [List.mem_cons] at among
        rcases among with rfl | later
        · have plain := ih (split ▸ List.mem_cons_self : first ∈ splitSlashes rest)
          simpa [plain] using Ne.symm slash
        · exact ih (split ▸ List.mem_cons_of_mem _ later)

namespace Path

/-- A name alone is read as a path of one name. -/
theorem ofString_of_plain {name : String} (plain : '/' ∉ name.toList) (filled : name ≠ "")
    (notDot : name ≠ ".") : ofString name = ⟨.relative, [name]⟩ := by
  have anchor : Anchor.ofChars name.toList = .relative := by
    unfold Anchor.ofChars
    split <;> simp_all
  have notEmpty : name.toList ≠ [] := by simpa using filled
  have notSingle : name.toList ≠ ['.'] := fun same => notDot (String.toList_inj.mp same)
  simp [ofString, anchor, splitSlashes_of_not_mem plain, notEmpty, notSingle]

theorem not_mem_of_mem_parts {text name : String} (among : name ∈ (ofString text).parts) :
    '/' ∉ name.toList := by
  obtain ⟨part, kept, rfl⟩ := List.mem_map.mp among
  rw [String.toList_ofList]
  exact not_mem_of_mem_splitSlashes (List.mem_filter.mp kept).1

/-- The stem starts the last name. -/
theorem stem_isPrefix_name (path : Path) : path.stem.toList <+: path.name.toList := by
  unfold stem
  simp only
  split
  next before dropped =>
    split
    next => exact List.prefix_rfl
    next =>
      have suffix : before <:+ path.name.toList.reverse :=
        (List.suffix_cons _ before).trans (dropped ▸ List.dropWhile_suffix _)
      rw [String.toList_ofList, ← List.reverse_suffix, List.reverse_reverse]
      exact suffix
  next => exact List.prefix_rfl

/-- A stem is free of slashes if the names of the path are. -/
theorem not_mem_stem_of_plain {path : Path} (plain : ∀ name ∈ path.parts, '/' ∉ name.toList) :
    '/' ∉ path.stem.toList := by
  intro slash
  have inName := (stem_isPrefix_name path).subset slash
  unfold name at inName
  cases last : path.parts.getLast? with
  | none => simp [List.getLast?_eq_none_iff.mp last] at inName
  | some name =>
    rw [List.getLastD_eq_getLast?, last, Option.getD_some] at inName
    exact plain name (List.mem_of_getLast? last) inName

/-- The stem of a path that has been read is free of slashes. -/
theorem not_mem_stem (text : String) : '/' ∉ (ofString text).stem.toList :=
  not_mem_stem_of_plain fun _ => not_mem_of_mem_parts

/-- A name with a suffix is no dot, nor two of them. -/
theorem two_lt_length_suffixed (name : String) : 2 < (name ++ ".md").length := by
  have suffix : ".md".length = 3 := by decide
  rw [String.length_append, suffix]
  omega

/-- A stem with a suffix, read as a path, leads to a file in the directory. -/
theorem join_suffixed_stem (directory : Path) (text : String) :
    directory.join (ofString ((ofString text).stem ++ ".md")) =
      directory.child ((ofString text).stem ++ ".md") := by
  have plain : '/' ∉ ((ofString text).stem ++ ".md").toList := by
    simp [not_mem_stem]
  have long := two_lt_length_suffixed (ofString text).stem
  rw [ofString_of_plain plain ?_ ?_]
  · rfl
  · intro empty
    rw [empty] at long
    exact absurd long (by decide)
  · intro dot
    rw [dot] at long
    exact absurd long (by decide)

/-- A name with a suffix leads straight down. -/
theorem resolve_suffixed (path : Path) (name : String) (directory : Location) :
    (path.child (name ++ ".md")).resolve directory = path.resolve directory ++ [name ++ ".md"] := by
  refine resolve_append (fun up => ?_) directory path
  have long := two_lt_length_suffixed name
  rw [← List.mem_singleton.mp up] at long
  exact absurd long (by decide)

end Path

end MemberDocs
