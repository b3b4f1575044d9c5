import Mathlib.Data.List.Forall2

/-! # Results

Steps that can fail, read as optional values (`toOption_bind`, `toOption_map`), and lists of such
steps: they all succeed, or the first one that fails stops them (`mapM_of_forall₂`,
`mapM_of_first_error`, `forall₂_of_mapM`).
-/

namespace MemberDocs

variable {ε α β : Type}

theorem toOption_bind (result : Except ε α) (next : α → Except ε β) :
    (result.bind next).toOption = result.toOption.bind fun a => (next a).toOption := by
  cases result <;> rfl

theorem toOption_map (f : α → β) (result : Except ε α) :
    (result.map f).toOption = result.toOption.map f := by
  cases result <;> rfl

theorem toOption_eq_some_iff {result : Except ε α} {a : α} :
    result.toOption = some a ↔ result = .ok a := by
  cases result <;> simp [Except.toOption]

theorem toOption_eq_none_iff {result : Except ε α} :
    result.toOption = none ↔ ∃ error, result = .error error := by
  cases result <;> simp [Except.toOption]

theorem toOption_mapError {ε' : Type} (f : ε → ε') (result : Except ε α) :
    (result.mapError f).toOption = result.toOption := by
  cases result <;> rfl

theorem mapError_eq_error_iff {ε' : Type} {f : ε → ε'} {result : Except ε α} {error : ε'} :
    result.mapError f = .error error ↔ ∃ reason, result = .error reason ∧ f reason = error := by
  cases result <;> simp [Except.mapError]

theorem mapError_eq_ok_iff {ε' : Type} {f : ε → ε'} {result : Except ε α} {a : α} :
    result.mapError f = .ok a ↔ result = .ok a := by
  cases result <;> simp [Except.mapError]

theorem bind_eq_ok_iff {result : Except ε α} {next : α → Except ε β} {b : β} :
    result.bind next = .ok b ↔ ∃ a, result = .ok a ∧ next a = .ok b := by
  cases result <;> simp [Except.bind]

theorem map_eq_ok_iff {f : α → β} {result : Except ε α} {b : β} :
    result.map f = .ok b ↔ ∃ a, result = .ok a ∧ f a = b := by
  cases result <;> simp [Except.map]

/-- Results that are read alike both give the same, or both fail. -/
theorem outcomes_of_toOption {ε' : Type} {first : Except ε α} {second : Except ε' α}
    (same : second.toOption = first.toOption) :
    (∃ a, first = .ok a ∧ second = .ok a) ∨
      ∃ error error', first = .error error ∧ second = .error error' := by
  cases first with
  | ok a => exact Or.inl ⟨a, rfl, toOption_eq_some_iff.mp same⟩
  | error error =>
    obtain ⟨error', failed⟩ := toOption_eq_none_iff.mp same
    exact Or.inr ⟨error, error', rfl, failed⟩

theorem exists_of_mem_forall₂ {related : α → β → Prop} {first : List α} {second : List β}
    (each : List.Forall₂ related first second) {a : α} (member : a ∈ first) : ∃ b, related a b := by
  induction each with
  | nil => cases member
  | cons here _ ih =>
    rcases List.mem_cons.mp member with rfl | later
    · exact ⟨_, here⟩
    · exact ih later

theorem mapM_cons_eq (step : α → Except ε β) (a : α) (rest : List α) :
    (a :: rest).mapM step = (step a).bind fun b => (rest.mapM step).map (b :: ·) := by
  rw [List.mapM_cons]
  cases step a with
  | error error => rfl
  | ok b => cases rest.mapM step <;> rfl

theorem mapM_of_forall₂ {step : α → Except ε β} {as : List α} {bs : List β}
    (all : List.Forall₂ (fun a b => step a = .ok b) as bs) : as.mapM step = .ok bs := by
  induction all with
  | nil => rfl
  | cons first rest ih =>
    rw [mapM_cons_eq, first, ih]
    rfl

/-- Steps that all succeed give a list. -/
theorem exists_mapM_of_each {step : α → Except ε β} {as : List α}
    (each : ∀ a ∈ as, ∃ b, step a = .ok b) : ∃ bs, as.mapM step = .ok bs := by
  induction as with
  | nil => exact ⟨[], rfl⟩
  | cons a rest ih =>
    obtain ⟨b, first⟩ := each a List.mem_cons_self
    obtain ⟨others, later⟩ := ih fun other member => each other (List.mem_cons_of_mem a member)
    exact ⟨b :: others, by rw [mapM_cons_eq, first, later]; rfl⟩

/-- If steps give a list, it is the list of their values. -/
theorem forall₂_of_mapM {step : α → Except ε β} {as : List α} {bs : List β}
    (done : as.mapM step = .ok bs) : List.Forall₂ (fun a b => step a = .ok b) as bs := by
  induction as generalizing bs with
  | nil =>
    obtain rfl : [] = bs := Except.ok.inj done
    exact .nil
  | cons a rest ih =>
    rw [mapM_cons_eq] at done
    cases first : step a with
    | error error =>
      rw [first] at done
      cases done
    | ok b =>
      cases later : rest.mapM step with
      | error error =>
        rw [first, later] at done
        cases done
      | ok others =>
        rw [first, later] at done
        obtain rfl : b :: others = bs := Except.ok.inj done
        exact .cons first (ih later)

theorem mapM_of_first_error {step : α → Except ε β} {before : List α} {a : α} {after : List α}
    {error : ε} (earlier : ∀ b ∈ before, ∃ value, step b = .ok value)
    (failed : step a = .error error) : (before ++ a :: after).mapM step = .error error := by
  induction before with
  | nil =>
    rw [List.nil_append, mapM_cons_eq, failed]
    rfl
  | cons b rest ih =>
    obtain ⟨value, succeeded⟩ := earlier b List.mem_cons_self
    rw [List.cons_append, mapM_cons_eq, succeeded,
      ih fun other member => earlier other (List.mem_cons_of_mem b member)]
    rfl

theorem mapM_map_right {γ : Type} (step : α → Except ε β) (f : β → γ) (as : List α) :
    as.mapM (fun a => (step a).map f) = (as.mapM step).map (List.map f) := by
  induction as with
  | nil => rfl
  | cons a rest ih =>
    rw [mapM_cons_eq, mapM_cons_eq, ih]
    cases step a with
    | error error => rfl
    | ok b => cases rest.mapM step <;> rfl

end MemberDocs
