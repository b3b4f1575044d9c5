import MemberDocs.Text.LineBreak
import Mathlib.Data.List.TakeDrop

/-! # Lines and their breaks

Two functions that take a text apart at its line breaks and make them one, on texts that are put
together: where no break is cut in two they may be unified part by part
(`unifyChars_append_of_head?`), and the last line of a text runs on in what follows
(`linesOfChars_append_lines`). Lines that are put together are found again
(`linesOfChars_joinLineChars`).
-/

namespace MemberDocs.Text

theorem unifyChars_of_no_returns {source : List Char} (returns : '\r' ∉ source) :
    unifyChars source = source := by
  induction source with
  | nil => rfl
  | cons c rest ih =>
    have notReturn : c ≠ '\r' := fun same => returns (same ▸ List.mem_cons_self)
    have later := ih fun member => returns (List.mem_cons_of_mem c member)
    rw [unifyChars]
    · simp [notReturn, later]
    · exact fun more same => (notReturn same).elim

theorem mem_unifyChars {c : Char} {source : List Char} (member : c ∈ unifyChars source) :
    c = '\n' ∨ c ∈ source := by
  fun_induction unifyChars source with
  | case1 => cases member
  | case2 rest ih =>
    rcases List.mem_cons.mp member with rfl | later
    · exact Or.inl rfl
    · exact (ih later).imp_right fun found => by simp [found]
  | case3 first rest _ ih =>
    rcases List.mem_cons.mp member with rfl | later
    · split
      · exact Or.inl rfl
      · exact Or.inr List.mem_cons_self
    · exact (ih later).imp_right (List.mem_cons_of_mem first)

@[simp] theorem unifyChars_nil : unifyChars [] = [] := rfl

@[simp] theorem unifyChars_break (rest : List Char) :
    unifyChars ('\r' :: '\n' :: rest) = '\n' :: unifyChars rest := rfl

/-- A return that stands alone is read as a line feed. -/
theorem unifyChars_return {rest : List Char} (single : rest.head? ≠ some '\n') :
    unifyChars ('\r' :: rest) = '\n' :: unifyChars rest := by
  rw [unifyChars, if_pos rfl]
  rintro more - rfl
  exact single rfl

theorem unifyChars_cons {c : Char} (notReturn : c ≠ '\r') (rest : List Char) :
    unifyChars (c :: rest) = c :: unifyChars rest := by
  rw [unifyChars, if_neg notReturn]
  exact fun more same => (notReturn same).elim

theorem returns_not_mem_unifyChars (source : List Char) : '\r' ∉ unifyChars source := by
  intro member
  fun_induction unifyChars source with
  | case1 => cases member
  | case2 rest ih => exact ih (by simpa using member)
  | case3 c rest _ ih =>
    rcases List.mem_cons.mp member with same | later
    · split at same
      · cases same
      · next other => exact other same.symm
    · exact ih later

theorem mem_unifyChars_of_mem {c : Char} {source : List Char} (member : c ∈ source)
    (notReturn : c ≠ '\r') : c ∈ unifyChars source := by
  fun_induction unifyChars source with
  | case1 => cases member
  | case2 rest ih =>
    rcases List.mem_cons.mp member with rfl | member
    · exact absurd rfl notReturn
    · rcases List.mem_cons.mp member with rfl | member
      · exact List.mem_cons_self
      · exact List.mem_cons_of_mem _ (ih member)
  | case3 first rest _ ih =>
    rcases List.mem_cons.mp member with rfl | member
    · rw [if_neg notReturn]
      exact List.mem_cons_self
    · exact List.mem_cons_of_mem _ (ih member)

@[simp] theorem unifyChars_unifyChars (source : List Char) :
    unifyChars (unifyChars source) = unifyChars source :=
  unifyChars_of_no_returns (returns_not_mem_unifyChars source)

@[simp] theorem unifyChars_eq_nil_iff {source : List Char} :
    unifyChars source = [] ↔ source = [] := by
  fun_cases unifyChars source with
  | case1 => simp
  | case2 => simp
  | case3 => simp

@[simp] theorem isEmpty_unifyChars (source : List Char) :
    (unifyChars source).isEmpty = source.isEmpty := by
  rw [Bool.eq_iff_iff, List.isEmpty_iff, List.isEmpty_iff, unifyChars_eq_nil_iff]

theorem unifyChars_append {first : List Char} (returns : '\r' ∉ first) (rest : List Char) :
    unifyChars (first ++ rest) = first ++ unifyChars rest := by
  induction first with
  | nil => rfl
  | cons c more ih =>
    have notReturn : c ≠ '\r' := fun same => returns (same ▸ List.mem_cons_self)
    have later := ih fun member => returns (List.mem_cons_of_mem c member)
    rw [List.cons_append, unifyChars_cons notReturn, later, List.cons_append]

/-- Texts of which the second does not start with a line feed have no break at their seam. -/
theorem unifyChars_append_of_head? {rest : List Char} (starts : rest.head? ≠ some '\n')
    (first : List Char) : unifyChars (first ++ rest) = unifyChars first ++ unifyChars rest := by
  fun_induction unifyChars first with
  | case1 => rfl
  | case2 more ih => rw [List.cons_append, List.cons_append, unifyChars, ih, List.cons_append]
  | case3 c more single ih =>
    rw [List.cons_append, unifyChars, ih, List.cons_append]
    rintro others rfl follows
    cases more with
    | nil => exact starts (by rw [← List.nil_append rest, follows, List.head?_cons])
    | cons next later =>
      obtain rfl : next = '\n' := (List.cons.inj follows).1
      exact single later rfl rfl

/-- The characters up to the first that is none of some, where a break is none of them. -/
theorem span_unifyChars_of_unbroken {p : Char → Bool} (notReturn : p '\r' = false)
    (notFeed : p '\n' = false) (source : List Char) :
    (unifyChars source).span p = ((source.span p).1, unifyChars (source.span p).2) := by
  simp only [List.span_eq_takeWhile_dropWhile]
  induction source with
  | nil => rfl
  | cons c rest ih =>
    by_cases isReturn : c = '\r'
    · subst isReturn
      have starts : ∃ others, unifyChars ('\r' :: rest) = '\n' :: others := by
        by_cases feed : rest.head? = some '\n'
        · cases rest with
          | nil => cases feed
          | cons next more =>
            obtain rfl : next = '\n' := by simpa using feed
            exact ⟨_, unifyChars_break more⟩
        · exact ⟨_, unifyChars_return feed⟩
      obtain ⟨others, same⟩ := starts
      simp [same, notReturn, notFeed]
    · rw [unifyChars_cons isReturn]
      obtain ⟨taken, dropped⟩ := Prod.mk.inj ih
      by_cases holds : p c
      · simp [holds, taken, dropped]
      · simp [holds, unifyChars_cons isReturn]

/-- The characters up to the first that is none of some, where breaks are among them. -/
theorem span_unifyChars_of_breaks {p : Char → Bool} (return_ : p '\r') (feed : p '\n')
    (source : List Char) :
    (unifyChars source).span p =
      (unifyChars (source.span p).1, unifyChars (source.span p).2) := by
  simp only [List.span_eq_takeWhile_dropWhile]
  fun_induction unifyChars source with
  | case1 => rfl
  | case2 rest ih =>
    obtain ⟨taken, dropped⟩ := Prod.mk.inj ih
    simp [return_, feed, taken, dropped]
  | case3 c rest single ih =>
    obtain ⟨taken, dropped⟩ := Prod.mk.inj ih
    by_cases isReturn : c = '\r'
    · subst isReturn
      have alone : (rest.takeWhile p).head? ≠ some '\n' := by
        intro starts
        cases rest with
        | nil => cases starts
        | cons next more =>
          by_cases holds : p next
          · obtain rfl : next = '\n' := by simpa [holds] using starts
            exact single more rfl rfl
          · simp [holds] at starts
      simp [return_, feed, taken, dropped, unifyChars_return alone]
    · by_cases holds : p c
      · simp [holds, isReturn, taken, dropped, unifyChars_cons isReturn]
      · simp [holds, isReturn, unifyChars_cons isReturn]

/-- A line up to its break, in front of a text. -/
theorem linesOfChars_append {line : List Char} (unbroken : '\n' ∉ line) (rest : List Char) :
    linesOfChars (line ++ '\n' :: rest) = line :: linesOfChars rest := by
  induction line with
  | nil => simp [linesOfChars]
  | cons c more ih =>
    have other : c ≠ '\n' := fun same => unbroken (same ▸ List.mem_cons_self)
    have others : '\n' ∉ more := fun member => unbroken (List.mem_cons_of_mem c member)
    rw [List.cons_append, linesOfChars, if_neg other, ih others]

/-- The last line of a text runs on in the first line of what follows. -/
theorem linesOfChars_append_lines {first second lead line : List Char}
    {earlier later : List (List Char)} (before : linesOfChars first = earlier ++ [lead])
    (after : linesOfChars second = line :: later) :
    linesOfChars (first ++ second) = earlier ++ (lead ++ line) :: later := by
  induction first generalizing earlier lead with
  | nil =>
    obtain ⟨rfl, rfl⟩ : earlier = [] ∧ lead = [] := by
      cases earlier with
      | nil => exact ⟨rfl, (List.cons.inj before).1.symm⟩
      | cons _ more => cases more <;> cases before
    exact after
  | cons c more ih =>
    obtain ⟨front, others, split⟩ := List.exists_cons_of_ne_nil (linesOfChars_ne_nil more)
    rw [List.cons_append]
    rw [linesOfChars] at before ⊢
    by_cases isBreak : c = '\n'
    · rw [if_pos isBreak] at before ⊢
      cases earlier with
      | nil => exact absurd (List.cons.inj before).2 (linesOfChars_ne_nil more)
      | cons empty earlier =>
        obtain ⟨rfl, same⟩ := List.cons.inj before
        rw [ih same, List.cons_append]
    · rw [if_neg isBreak, split] at before
      rw [if_neg isBreak]
      cases earlier with
      | nil =>
        obtain ⟨rfl, rfl⟩ := List.cons.inj before
        rw [@ih front [] split]
        rfl
      | cons first earlier =>
        obtain ⟨rfl, rfl⟩ := List.cons.inj before
        rw [@ih lead (front :: earlier) split]
        rfl

/-! ## Lines put together -/

variable {p : Char → Bool} {line cs : List Char} {lines : List (List Char)}

theorem joinLineChars_cons (line : List Char) (filled : lines ≠ []) :
    joinLineChars (line :: lines) = line ++ '\n' :: joinLineChars lines := by
  cases lines with
  | nil => exact absurd rfl filled
  | cons next more => rfl

theorem linesOfChars_of_unbroken (unbroken : '\n' ∉ line) : linesOfChars line = [line] := by
  induction line with
  | nil => rfl
  | cons c more ih =>
    have other : '\n' ≠ c := List.ne_of_not_mem_cons unbroken
    rw [linesOfChars, if_neg other.symm, ih (List.not_mem_of_not_mem_cons unbroken)]

theorem not_mem_of_mem_linesOfChars (member : line ∈ linesOfChars cs) : '\n' ∉ line := by
  induction cs generalizing line with
  | nil =>
    obtain rfl : line = [] := List.mem_singleton.mp member
    exact List.not_mem_nil
  | cons c rest ih =>
    rw [linesOfChars] at member
    by_cases isBreak : c = '\n'
    · rw [if_pos isBreak] at member
      rcases List.mem_cons.mp member with rfl | later
      · exact List.not_mem_nil
      · exact ih later
    · obtain ⟨front, others, split⟩ := List.exists_cons_of_ne_nil (linesOfChars_ne_nil rest)
      rw [if_neg isBreak, split] at member
      rw [split] at ih
      rcases List.mem_cons.mp member with rfl | later
      · exact List.not_mem_cons_of_ne_of_not_mem (Ne.symm isBreak) (ih List.mem_cons_self)
      · exact ih (List.mem_cons_of_mem front later)

/-- Lines that are put together are found again. -/
theorem linesOfChars_joinLineChars (filled : lines ≠ []) (unbroken : ∀ line ∈ lines, '\n' ∉ line) :
    linesOfChars (joinLineChars lines) = lines := by
  induction lines with
  | nil => exact absurd rfl filled
  | cons line rest ih =>
    obtain ⟨front, later⟩ := List.forall_mem_cons.mp unbroken
    by_cases single : rest = []
    · rw [single]
      exact linesOfChars_of_unbroken front
    · rw [joinLineChars_cons line single, linesOfChars_append front, ih single later]

/-- Characters that no break is one of are those of the lines. -/
theorem filter_joinLineChars (breaks : p '\n' = false) (lines : List (List Char)) :
    (joinLineChars lines).filter p = lines.flatMap (·.filter p) := by
  induction lines with
  | nil => rfl
  | cons line rest ih =>
    by_cases single : rest = []
    · rw [single, List.flatMap_singleton]
      rfl
    · rw [joinLineChars_cons line single, List.filter_append, List.filter_cons, breaks,
        List.flatMap_cons, ← ih]
      rfl

end MemberDocs.Text
