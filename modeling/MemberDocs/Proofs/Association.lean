import Mathlib.Data.List.Nodup

/-! # Association lists

Rule tables and volumes are lists of pairs that are read with `List.lookup`. Leaving out the pairs
with some keys hides these keys and no others (`MemberDocs.lookup_filter_key`), and in a list that
has no key twice the pairs are what is looked up (`MemberDocs.lookup_eq_some_iff_mem`).
-/

namespace MemberDocs

variable {α β : Type*} [BEq α] [LawfulBEq α]

theorem lookup_filter_key (keep : α → Bool) (pairs : List (α × β)) (key : α) :
    (pairs.filter fun pair => keep pair.1).lookup key =
      if keep key then pairs.lookup key else none := by
  induction pairs with
  | nil => simp
  | cons pair rest ih =>
    obtain ⟨first, value⟩ := pair
    by_cases same : key = first
    · subst same
      by_cases kept : keep key
      · simp [kept]
      · simp only [kept, Bool.false_eq_true, ↓reduceIte] at ih
        simp [kept, ih]
    · have other : (key == first) = false := by simpa using same
      by_cases kept : keep first
      · simp [List.filter_cons_of_pos, kept, List.lookup_cons, other, ih]
      · simp [kept, List.lookup_cons, other, ih]

theorem mem_of_lookup {pairs : List (α × β)} {key : α} {value : β}
    (found : pairs.lookup key = some value) : (key, value) ∈ pairs := by
  obtain ⟨before, after, rfl, -⟩ := List.lookup_eq_some_iff.mp found
  exact List.mem_append_right before List.mem_cons_self

/-- Where no key occurs twice, a pair is in the list exactly if it is looked up. -/
theorem lookup_eq_some_iff_mem {pairs : List (α × β)} (nodup : (pairs.map Prod.fst).Nodup)
    {key : α} {value : β} : pairs.lookup key = some value ↔ (key, value) ∈ pairs := by
  refine ⟨mem_of_lookup, fun member => ?_⟩
  obtain ⟨before, after, rfl⟩ := List.append_of_mem member
  refine List.lookup_eq_some_iff.mpr ⟨before, after, rfl, fun pair earlier => ?_⟩
  rw [List.map_append, List.map_cons] at nodup
  have distinct := (List.nodup_append.mp nodup).2.2 pair.1 (List.mem_map_of_mem earlier) key
    List.mem_cons_self
  simpa using Ne.symm distinct

end MemberDocs
