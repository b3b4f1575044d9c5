import Mathlib.Data.List.SplitBy

/-! # Maximal runs

Marking some characters parts a text into maximal runs, in turn of marked characters and of others
(`Alternating`). A text can be parted in this way (`exists_alternating`), and in one way only
(`Alternating.splitBy_flatten`), so that these are the runs that the library splits a list into
(`alternating_splitBy`).
-/

namespace MemberDocs.Text

variable {marked : Char → Bool} {kind : Bool} {run : List Char} {runs : List (List Char)}

/-- Runs that take turns: the characters of the first are marked as `kind` says, those of the second
are not, and so on. No run is empty. -/
inductive Alternating (marked : Char → Bool) : Bool → List (List Char) → Prop where
  | nil {kind : Bool} : Alternating marked kind []
  | cons {kind : Bool} {run : List Char} {others : List (List Char)} (filled : run ≠ [])
      (alike : ∀ c ∈ run, marked c = kind) (later : Alternating marked (!kind) others) :
      Alternating marked kind (run :: others)

namespace Alternating

/-- The text starts as its first run does. -/
theorem head?_flatten (parted : Alternating marked kind runs) :
    ∀ c ∈ runs.flatten.head?, marked c = kind := by
  cases parted with
  | nil => simp
  | cons filled alike later =>
    intro c first
    rw [List.flatten_cons, List.head?_append_of_ne_nil _ filled] at first
    exact alike c (List.mem_of_mem_head? first)

theorem exists_kind_of_mem (parted : Alternating marked kind runs) (member : run ∈ runs) :
    ∃ kind, ∀ c ∈ run, marked c = kind := by
  induction parted with
  | nil => cases member
  | @cons kind first others filled alike later ih =>
    rcases List.mem_cons.mp member with rfl | among
    · exact ⟨kind, alike⟩
    · exact ih among

/-- Runs that take turns are the maximal ones. -/
theorem splitBy_flatten (parted : Alternating marked kind runs) :
    runs.flatten.splitBy (fun c next => marked c == marked next) = runs := by
  induction parted with
  | nil => rfl
  | @cons kind run others filled alike later ih =>
    have chain : run.IsChain fun c next => marked c == marked next :=
      (List.pairwise_of_forall_mem_list fun c first next second => by
        simp [alike c first, alike next second]).isChain
    have ends : ∀ c ∈ run.getLast?, ∀ next ∈ others.flatten.head?,
        (marked c == marked next) = false := by
      intro c last next starts
      rw [alike c (List.mem_of_mem_getLast? last), later.head?_flatten next starts]
      cases kind <;> rfl
    rw [List.flatten_cons, List.splitBy_append ends, List.splitBy_of_isChain filled chain, ih,
      List.singleton_append]

/-- Runs still take turns when each of them is written in another way that keeps its marking. -/
theorem map (parted : Alternating marked kind runs) {write : List Char → List Char}
    (kept : ∀ run kind, run ≠ [] → (∀ c ∈ run, marked c = kind) →
      write run ≠ [] ∧ ∀ c ∈ write run, marked c = kind) :
    Alternating marked kind (runs.map write) := by
  induction parted with
  | nil => exact .nil
  | @cons kind run others filled alike later ih =>
    obtain ⟨stillFilled, stillAlike⟩ := kept run kind filled alike
    exact .cons stillFilled stillAlike ih

end Alternating

theorem exists_alternating (marked : Char → Bool) (cs : List Char) :
    ∃ kind runs, Alternating marked kind runs ∧ runs.flatten = cs := by
  induction cs with
  | nil => exact ⟨true, [], .nil, rfl⟩
  | cons c rest ih =>
    obtain ⟨kind, runs, parted, rfl⟩ := ih
    have alone : ∀ d ∈ [c], marked d = marked c := by simp
    cases parted with
    | nil => exact ⟨marked c, [[c]], .cons (List.cons_ne_nil c []) alone .nil, rfl⟩
    | @cons kind run others filled alike later =>
      by_cases same : marked c = kind
      · -- The character goes on with the run behind it.
        have longer : ∀ d ∈ c :: run, marked d = kind := List.forall_mem_cons.mpr ⟨same, alike⟩
        exact ⟨kind, (c :: run) :: others, .cons (List.cons_ne_nil c run) longer later, rfl⟩
      · have turn : kind = !marked c := by
          cases kind <;> simpa using same
        refine ⟨marked c, [c] :: run :: others, .cons (List.cons_ne_nil c []) alone ?_, rfl⟩
        rw [← turn]
        exact .cons filled alike later

/-- The maximal runs of a text take turns. -/
theorem alternating_splitBy (marked : Char → Bool) (cs : List Char) :
    ∃ kind, Alternating marked kind (cs.splitBy fun c next => marked c == marked next) := by
  obtain ⟨kind, runs, parted, rfl⟩ := exists_alternating marked cs
  rw [parted.splitBy_flatten]
  exact ⟨kind, parted⟩

end MemberDocs.Text
