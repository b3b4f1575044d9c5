import MemberDocs.Text.Blank

/-! # Collapsing and cutting off blanks

Collapsing and cutting off the end touch blanks only: all other characters stay, in their order
(`filter_collapse`, `filter_stripEndChars`). All that collapsing keeps in mind is whether a blank is
just before (`endsBlank`). So a text can be collapsed in parts (`collapseChars_append`), and parts
that have been collapsed before may be put together and collapsed again
(`collapse_append_collapse`). Two texts, one after the other, are cut off within the second unless
it is blank (`stripEndChars_append`).
-/

namespace MemberDocs.Text

@[simp] theorem isBlank_space : isBlank ' ' = true := by decide

theorem filter_collapseChars (inRun : Bool) (cs : List Char) :
    (collapseChars inRun cs).filter (!isBlank ·) = cs.filter (!isBlank ·) := by
  induction cs generalizing inRun with
  | nil => rfl
  | cons c rest ih =>
    by_cases blank : isBlank c
    · cases inRun <;> simp [collapseChars, blank, ih]
    · simp [collapseChars, blank, ih]

/-- Collapsing keeps every character that is not blank, in its order. -/
theorem filter_collapse (s : String) :
    (collapse s).toList.filter (!isBlank ·) = s.toList.filter (!isBlank ·) := by
  rw [toList_collapse, filter_collapseChars]

/-! ## Texts in parts -/

/-- Whether a text ends with a blank; if it is empty, `inRun` says so of what is before it. -/
def endsBlank (inRun : Bool) : List Char → Bool
  | [] => inRun
  | c :: rest => endsBlank (isBlank c) rest

theorem collapseChars_append (inRun : Bool) (first second : List Char) :
    collapseChars inRun (first ++ second) =
      collapseChars inRun first ++ collapseChars (endsBlank inRun first) second := by
  induction first generalizing inRun with
  | nil => rfl
  | cons c rest ih =>
    by_cases blank : isBlank c
    · cases inRun <;> simp [collapseChars, endsBlank, blank, ih]
    · simp [collapseChars, endsBlank, blank, ih]

theorem endsBlank_collapseChars (inRun : Bool) (cs : List Char) :
    endsBlank inRun (collapseChars inRun cs) = endsBlank inRun cs := by
  induction cs generalizing inRun with
  | nil => rfl
  | cons c rest ih =>
    by_cases blank : isBlank c
    · cases inRun <;> simp [collapseChars, endsBlank, blank, ih]
    · simp [collapseChars, endsBlank, blank, ih]

/-- Collapsing again, after a blank or as before, is collapsing once. -/
theorem collapseChars_collapseChars {before inRun : Bool} (after : before = true → inRun = true)
    (cs : List Char) :
    collapseChars inRun (collapseChars before cs) = collapseChars inRun cs := by
  induction cs generalizing before inRun with
  | nil => rfl
  | cons c rest ih =>
    by_cases blank : isBlank c
    · have again : collapseChars true (collapseChars true rest) = collapseChars true rest := ih id
      cases before with
      | false => cases inRun <;> simp [collapseChars, blank, again]
      | true =>
        obtain rfl := after rfl
        simp [collapseChars, blank, again]
    · have again : collapseChars false (collapseChars false rest) = collapseChars false rest :=
        ih id
      simp [collapseChars, blank, again]

/-- Parts that have been collapsed are collapsed together as they would have been at first. -/
theorem collapse_append_collapse (first second : String) :
    collapse (collapse first ++ collapse second) = collapse (first ++ second) := by
  apply String.toList_inj.mp
  simp only [toList_collapse, String.toList_append, collapseChars_append, endsBlank_collapseChars]
  rw [collapseChars_collapseChars id, collapseChars_collapseChars Bool.false_ne_true.elim]

theorem collapse_collapse (s : String) : collapse (collapse s) = collapse s := by
  apply String.toList_inj.mp
  rw [toList_collapse, toList_collapse, collapseChars_collapseChars id]

/-! ## Blanks at the end -/

variable {c : Char} {cs first second : List Char}

theorem stripEndChars_append (first second : List Char) :
    stripEndChars (first ++ second) =
      if stripEndChars second = [] then stripEndChars first else first ++ stripEndChars second := by
  induction first with
  | nil => simp [stripEndChars]
  | cons c rest ih =>
    rw [List.cons_append, stripEndChars, ih]
    by_cases blank : stripEndChars second = []
    · simp only [blank, ↓reduceIte]
      rfl
    · simp only [blank, ↓reduceIte]
      cases both : rest ++ stripEndChars second with
      | nil => exact absurd (List.append_eq_nil_iff.mp both).2 blank
      | cons d more => rw [List.cons_append, both]

theorem stripEndChars_prefix_self (cs : List Char) : stripEndChars cs <+: cs := by
  induction cs with
  | nil => exact List.prefix_rfl
  | cons c rest ih =>
    rw [stripEndChars]
    split
    · split
      · exact List.nil_prefix
      · exact List.prefix_append [c] rest
    · exact List.cons_prefix_cons.mpr ⟨rfl, ih⟩

theorem stripEndChars_eq_nil_iff : stripEndChars cs = [] ↔ ∀ c ∈ cs, isBlank c := by
  induction cs with
  | nil => simp [stripEndChars]
  | cons c rest ih =>
    rw [stripEndChars, List.forall_mem_cons, ← ih]
    cases stripEndChars rest with
    | nil => simp
    | cons d more => simp

/-- What is left ends with a character that is not blank. -/
theorem isBlank_getLast?_stripEndChars (last : c ∈ (stripEndChars cs).getLast?) :
    isBlank c = false := by
  induction cs with
  | nil => simp [stripEndChars] at last
  | cons d rest ih =>
    rw [stripEndChars] at last
    cases kept : stripEndChars rest with
    | nil =>
      rw [kept] at last
      by_cases blank : isBlank d
      · simp [blank] at last
      · simp only [blank] at last
        obtain rfl : d = c := by simpa using last
        simpa using blank
    | cons e more =>
      rw [kept] at last ih
      exact ih (by simpa using last)

/-- Only blanks are cut off. -/
theorem filter_stripEndChars (cs : List Char) :
    (stripEndChars cs).filter (!isBlank ·) = cs.filter (!isBlank ·) := by
  induction cs with
  | nil => rfl
  | cons c rest ih =>
    rw [stripEndChars]
    cases kept : stripEndChars rest with
    | nil =>
      rw [kept] at ih
      by_cases blank : isBlank c <;> simp [blank, ← ih]
    | cons d more =>
      rw [kept] at ih
      rw [List.filter_cons, ih, List.filter_cons]

end MemberDocs.Text
