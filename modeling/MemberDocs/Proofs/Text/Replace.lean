import MemberDocs.Text.Replace
import Mathlib.Data.List.Infix

/-! # Replacing occurrences

Replacing reads a text once, from the left: what stands in front is replaced if it is an
occurrence (`replaceChars_append_target`), and otherwise its first character is copied
(`replaceChars_copy`). So the leftmost occurrence is replaced first, and nothing that is put in is
read again, which determines the result (`replaced_iff`). A part that no occurrence overlaps stays
as it is, and the texts around it are replaced each by itself (`replaceChars_around`). A word that
does not overlap itself is such a part, wherever it does not follow the sign that makes it an
occurrence (`standsApart_of_unbordered`).
-/

namespace MemberDocs.Text

variable {target replacement word before after rest : List Char} {c : Char}

/-- Every occurrence of `target` is replaced, the leftmost first and no two overlapping: the text is
copied up to the first occurrence, and what comes after it is replaced in the same way. -/
inductive Replaced (target replacement : List Char) : List Char → List Char → Prop where
  | copied {text : List Char} (absent : ¬ target <:+: text) : Replaced target replacement text text
  | next {before after result : List Char} (leftmost : ¬ target <:+: (before ++ target).dropLast)
      (later : Replaced target replacement after result) :
      Replaced target replacement (before ++ target ++ after) (before ++ replacement ++ result)

/-! ## One step -/

theorem replaceChars_skip (count : Nat) (text : List Char) :
    replaceChars target replacement count text =
      replaceChars target replacement 0 (text.drop count) := by
  induction text generalizing count with
  | nil => simp [replaceChars]
  | cons c rest ih =>
    cases count with
    | zero => rfl
    | succ count => exact ih count

theorem replaceChars_append_target (filled : target ≠ []) (rest : List Char) :
    replaceChars target replacement 0 (target ++ rest) =
      replacement ++ replaceChars target replacement 0 rest := by
  obtain ⟨front, others, rfl⟩ := List.exists_cons_of_ne_nil filled
  rw [List.cons_append, replaceChars, if_pos (by simp [List.isPrefixOf_iff_prefix]),
    replaceChars_skip, List.length_cons, Nat.add_sub_cancel, List.drop_left]

theorem replaceChars_copy (other : ¬ target <+: c :: rest) :
    replaceChars target replacement 0 (c :: rest) =
      c :: replaceChars target replacement 0 rest := by
  rw [replaceChars, if_neg]
  intro occurs
  exact other (List.isPrefixOf_iff_prefix.mp (Bool.and_eq_true_iff.mp occurs).2)

/-- To replace one character is to write it anew wherever it stands. -/
theorem replaceChars_singleton (char written : Char) (cs : List Char) :
    replaceChars [char] [written] 0 cs = cs.map fun c => if c = char then written else c := by
  induction cs with
  | nil => rfl
  | cons c rest ih =>
    rw [List.map_cons, ← ih]
    by_cases same : c = char
    · rw [if_pos same, same]
      exact replaceChars_append_target (List.cons_ne_nil char []) rest
    · rw [if_neg same]
      exact replaceChars_copy fun starts => same (List.cons_prefix_cons.mp starts).1.symm

/-! ## Whole texts -/

namespace Replaced

variable {text result : List Char}

/-- An occurrence in front is the leftmost one. -/
theorem front (filled : target ≠ []) (later : Replaced target replacement text result) :
    Replaced target replacement (target ++ text) (replacement ++ result) := by
  have leftmost : ¬ target <:+: target.dropLast := by
    intro occurs
    have shorter := occurs.length_le
    have positive := List.length_pos_of_ne_nil filled
    rw [List.length_dropLast] at shorter
    omega
  exact @next target replacement [] text result leftmost later

/-- A character that no occurrence starts with is copied. -/
theorem cons (other : ¬ target <+: c :: text) (later : Replaced target replacement text result) :
    Replaced target replacement (c :: text) (c :: result) := by
  have filled : target ≠ [] := by
    rintro rfl
    exact other List.nil_prefix
  cases later with
  | copied absent => exact .copied fun occurs => (List.infix_cons_iff.mp occurs).elim other absent
  | @next before after result leftmost later =>
    have last : (c :: before ++ target).dropLast = c :: (before ++ target).dropLast :=
      List.dropLast_cons_of_ne_nil (List.append_ne_nil_of_right_ne_nil before filled)
    refine @next target replacement (c :: before) after result ?_ later
    rw [last, List.infix_cons_iff]
    rintro (starts | early)
    · apply other
      apply starts.trans
      rw [List.cons_prefix_cons]
      exact ⟨rfl, (List.dropLast_prefix _).trans (List.prefix_append _ after)⟩
    · exact leftmost early

end Replaced

theorem replaced_replaceChars (filled : target ≠ []) (text : List Char) :
    Replaced target replacement text (replaceChars target replacement 0 text) := by
  -- The characters of an occurrence that has been replaced are passed over one by one.
  suffices passed : ∀ count, Replaced target replacement (text.drop count)
      (replaceChars target replacement count text) from passed 0
  intro count
  fun_induction replaceChars target replacement count text with
  | case1 count =>
    rw [List.drop_nil]
    exact .copied (by simpa using filled)
  | case2 c rest count ih => exact ih
  | case3 c rest occurs ih =>
    obtain ⟨after, parts⟩ := List.isPrefixOf_iff_prefix.mp (Bool.and_eq_true_iff.mp occurs).2
    have dropped : rest.drop (target.length - 1) = after := by
      obtain ⟨first, others, rfl⟩ := List.exists_cons_of_ne_nil filled
      have tail : others ++ after = rest := (List.cons.inj parts).2
      rw [← tail, List.length_cons, Nat.add_sub_cancel, List.drop_left]
    rw [dropped] at ih
    rw [List.drop_zero, ← parts]
    exact Replaced.front filled ih
  | case4 c rest other ih =>
    apply Replaced.cons _ ih
    intro occurs
    apply other
    simpa [filled] using occurs

/-! ## A part that no occurrence overlaps -/

/-- No occurrence of `target` has a character in common with the `word` between two texts. -/
def StandsApart (target before word after : List Char) : Prop :=
  ∀ start rest, before ++ word ++ after = start ++ target ++ rest →
    start.length + target.length ≤ before.length ∨ before.length + word.length ≤ start.length

theorem replaceChars_append_of_apart (filled : target ≠ [])
    (apart : StandsApart target [] word after) :
    replaceChars target replacement 0 (word ++ after) =
      word ++ replaceChars target replacement 0 after := by
  induction word with
  | nil => rfl
  | cons c more ih =>
    have positive := List.length_pos_of_ne_nil filled
    have other : ¬ target <+: c :: (more ++ after) := by
      rintro ⟨rest, parts⟩
      have early := apart [] rest parts.symm
      simp only [List.length_nil, List.length_cons] at early
      omega
    have later : StandsApart target [] more after := by
      intro start rest parts
      have within := apart (c :: start) rest (congrArg (c :: ·) parts)
      simp only [List.length_nil, List.length_cons] at within ⊢
      omega
    rw [List.cons_append, replaceChars_copy other, ih later, List.cons_append]

theorem StandsApart.of_append {lead : List Char}
    (apart : StandsApart target (lead ++ before) word after) :
    StandsApart target before word after := by
  intro start rest parts
  have whole : lead ++ before ++ word ++ after = lead ++ start ++ target ++ rest := by
    simp only [List.append_assoc] at parts ⊢
    rw [parts]
  have within := apart (lead ++ start) rest whole
  simp only [List.length_append] at within
  omega

/-- What no occurrence overlaps stays where it is, and what is before it and after it is replaced as
if it stood alone. -/
theorem replaceChars_around (filled : target ≠ []) (apart : StandsApart target before word after) :
    replaceChars target replacement 0 (before ++ word ++ after) =
      replaceChars target replacement 0 before ++ word ++
        replaceChars target replacement 0 after := by
  induction size : before.length using Nat.strong_induction_on generalizing before with
  | _ size ih =>
    subst size
    cases before with
    | nil => exact replaceChars_append_of_apart filled apart
    | cons c more =>
      by_cases occurs : target <+: c :: (more ++ word ++ after)
      · have inside : target.length ≤ (c :: more).length := by
          obtain ⟨rest, parts⟩ := occurs
          have within := apart [] rest parts.symm
          simp only [List.length_nil, List.length_cons] at within ⊢
          omega
        have starts : target <+: c :: more := by
          apply List.prefix_of_prefix_length_le occurs _ inside
          exact List.cons_prefix_cons.mpr ⟨rfl, by simp [List.append_assoc]⟩
        obtain ⟨remaining, split⟩ := starts
        have shorter : remaining.length < (c :: more).length := by
          have positive := List.length_pos_of_ne_nil filled
          rw [← split, List.length_append]
          omega
        rw [← split] at apart ⊢
        have later := ih remaining.length shorter apart.of_append rfl
        simp only [List.append_assoc, replaceChars_append_target filled] at later ⊢
        rw [later]
      · have otherBefore : ¬ target <+: c :: more := by
          intro starts
          apply occurs
          exact starts.trans (List.cons_prefix_cons.mpr ⟨rfl, by simp [List.append_assoc]⟩)
        have apartLater : StandsApart target ([c] ++ more) word after := apart
        have later := ih more.length (Nat.lt_succ_self _) apartLater.of_append rfl
        rw [replaceChars_copy otherBefore, List.cons_append, List.cons_append,
          replaceChars_copy occurs, later]
        rfl

/-- What replacing gives is determined by what it means. -/
theorem Replaced.replaceChars_eq {text result : List Char} (filled : target ≠ [])
    (replaced : Replaced target replacement text result) :
    replaceChars target replacement 0 text = result := by
  induction replaced with
  | @copied text absent =>
    have apart : StandsApart target [] text [] := by
      intro start rest parts
      refine absurd ⟨start, rest, ?_⟩ absent
      simpa using parts.symm
    simpa [replaceChars] using replaceChars_append_of_apart filled apart
  | @next before after result leftmost later ih =>
    have apart : StandsApart target [] before (target ++ after) := by
      intro start rest parts
      right
      by_contra early
      apply leftmost
      have shorter : (start ++ target).length ≤ (before ++ target).length - 1 := by
        simp only [List.length_nil, List.length_append] at early ⊢
        omega
      have within : start ++ target <+: (before ++ target).dropLast := by
        rw [List.dropLast_eq_take, List.prefix_take_iff]
        refine ⟨List.prefix_of_prefix_length_le ⟨rest, rfl⟩ ⟨after, ?_⟩
          (shorter.trans (Nat.sub_le _ 1)), shorter⟩
        rw [← parts, List.nil_append, List.append_assoc]
      exact (List.suffix_append start target).isInfix.trans within.isInfix
    rw [List.append_assoc, replaceChars_append_of_apart filled apart,
      replaceChars_append_target filled, ih, List.append_assoc]

theorem replaced_iff {text result : List Char} (filled : target ≠ []) :
    Replaced target replacement text result ↔ replaceChars target replacement 0 text = result := by
  constructor
  · exact Replaced.replaceChars_eq filled
  · rintro rfl
    exact replaced_replaceChars filled text

/-! ## Words that do not overlap themselves -/

/-- Nothing but the empty text and the word itself is both a beginning and an end of the word. -/
def IsUnbordered (word : List Char) : Prop :=
  ∀ border, border <+: word → border <:+ word → border = [] ∨ border = word

instance : DecidablePred IsUnbordered := fun word =>
  decidable_of_iff (∀ border ∈ word.inits, border <:+ word → border = [] ∨ border = word) (by
    simp only [List.mem_inits, IsUnbordered])

/-- A word that does not overlap itself stands apart from the places where it follows a `sign`, if
the sign is not in it, nor directly before it. -/
theorem standsApart_of_unbordered {sign : Char} (unbordered : IsUnbordered word)
    (absent : sign ∉ word) (other : before.getLast? ≠ some sign) :
    StandsApart (sign :: word) before word after := by
  intro start rest parts
  by_contra overlap
  simp only [List.length_cons, not_or, not_le] at overlap
  obtain ⟨left, right⟩ := overlap
  have found : (before ++ word ++ after)[start.length]? = some sign := by
    rw [parts]
    simp
  rcases Nat.lt_trichotomy before.length (start.length + 1) with earlier | same | later
  · -- The sign is in the word.
    rw [List.append_assoc, List.getElem?_append_right (by omega),
      List.getElem?_append_left (by omega)] at found
    exact absent (List.mem_of_getElem? found)
  · -- The sign is directly before the word.
    rw [List.append_assoc, List.getElem?_append_left (by omega)] at found
    apply other
    rw [List.getLast?_eq_getElem?, same, Nat.add_sub_cancel, found]
  · -- An end of the word is a beginning of it too.
    obtain ⟨shift, gap⟩ : ∃ shift, before.length = (start ++ [sign]).length + shift :=
      ⟨before.length - (start.length + 1), by rw [List.length_append, List.length_singleton]; omega⟩
    have count : (start ++ [sign]).length = start.length + 1 := by simp
    have texts : start ++ [sign] ++ (word ++ rest) = before ++ (word ++ after) := by
      rw [← List.append_assoc before, parts]
      simp
    have ends : word.drop shift ++ rest = word ++ after := by
      calc word.drop shift ++ rest
          = (word ++ rest).drop shift := (List.drop_append_of_le_length (by omega)).symm
        _ = (start ++ [sign] ++ (word ++ rest)).drop ((start ++ [sign]).length + shift) := by
            rw [← List.drop_drop, List.drop_left]
        _ = (before ++ (word ++ after)).drop before.length := by rw [texts, gap]
        _ = word ++ after := List.drop_left
    have begins : word.drop shift <+: word := by
      apply List.prefix_of_prefix_length_le ⟨rest, ends⟩ (List.prefix_append word after)
      simp
    rcases unbordered _ begins (List.drop_suffix shift word) with nothing | whole
    · have beyond := List.drop_eq_nil_iff.mp nothing
      omega
    · have lengths := congrArg List.length whole
      rw [List.length_drop] at lengths
      omega

end MemberDocs.Text
