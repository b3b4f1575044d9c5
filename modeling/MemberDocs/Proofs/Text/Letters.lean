import MemberDocs.Text.Blank
import MemberDocs.Text.Lowercase
import Mathlib.Data.List.Basic

/-! # Letters of ASCII

There are few enough of them that a property of one character is checked letter by letter
(`of_letters`). Blanks are not among them, and they are lowered one by one, whatever is around them
(`lower_of_letters`).
-/

namespace MemberDocs.Text

def letters : List Char :=
  (List.range 26).map (fun i => Char.ofNat (65 + i)) ++
    (List.range 26).map fun i => Char.ofNat (97 + i)

theorem mem_letters {c : Char} (letter : c.isAlpha) : c ∈ letters := by
  have bounds : (97 ≤ c.toNat ∧ c.toNat ≤ 122) ∨ (65 ≤ c.toNat ∧ c.toNat ≤ 90) := by
    have cases : c.isUpper ∨ c.isLower := Bool.or_eq_true_iff.mp letter
    rcases cases with upper | lower
    · exact Or.inr (of_decide_eq_true upper)
    · obtain ⟨low, high⟩ := Bool.and_eq_true_iff.mp lower
      exact Or.inl ⟨of_decide_eq_true low, of_decide_eq_true high⟩
  have itself : Char.ofNat c.toNat = c := Char.ofNat_toNat c
  rcases bounds with ⟨low, high⟩ | ⟨low, high⟩
  · refine List.mem_append_right _ (List.mem_map.mpr ⟨c.toNat - 97, ?_, ?_⟩)
    · exact List.mem_range.mpr (by omega)
    · rw [show 97 + (c.toNat - 97) = c.toNat by omega, itself]
  · refine List.mem_append_left _ (List.mem_map.mpr ⟨c.toNat - 65, ?_, ?_⟩)
    · exact List.mem_range.mpr (by omega)
    · rw [show 65 + (c.toNat - 65) = c.toNat by omega, itself]

/-- What holds of each letter in the list holds of all letters. -/
@[elab_as_elim] theorem of_letters {p : Char → Prop} [DecidablePred p]
    (each : letters.all fun c => decide (p c)) {c : Char} (letter : c.isAlpha) : p c :=
  of_decide_eq_true (List.all_eq_true.mp each c (mem_letters letter))

theorem lowerChar_of_letter {c : Char} (letter : c.isAlpha) :
    c ≠ 'Σ' ∧ c ≠ 'İ' ∧ lowerChar c = c.toLower :=
  of_letters (by decide) letter

theorem lowerChars_of_letters (before : List Char) {cs : List Char}
    (word : ∀ c ∈ cs, c.isAlpha) : lowerChars before cs = cs.map Char.toLower := by
  induction cs generalizing before with
  | nil => rfl
  | cons c rest ih =>
    obtain ⟨notSigma, notDotted, lowered⟩ := lowerChar_of_letter (word c List.mem_cons_self)
    simp only [lowerChars, notSigma, notDotted, ↓reduceIte, lowered, List.map_cons,
      List.singleton_append]
    rw [ih (c :: before) fun d member => word d (List.mem_cons_of_mem c member)]

theorem toList_toLower (s : String) : s.toLower.toList = s.toList.map Char.toLower :=
  String.toList_map

theorem lower_of_letters {s : String} (word : ∀ c ∈ s.toList, c.isAlpha) :
    lower s = s.toLower := by
  apply String.toList_injective
  rw [toList_toLower, lower, String.toList_ofList, lowerChars_of_letters [] word]

theorem isBlank_of_letter {c : Char} (letter : c.isAlpha) : isBlank c = false :=
  of_letters (by decide) letter

theorem stripEndChars_of_letters {cs : List Char} (word : ∀ c ∈ cs, c.isAlpha) :
    stripEndChars cs = cs := by
  induction cs with
  | nil => rfl
  | cons c rest ih =>
    have shown : isBlank c = false := isBlank_of_letter (word c List.mem_cons_self)
    rw [stripEndChars, ih fun d member => word d (List.mem_cons_of_mem c member)]
    cases rest with
    | nil => simp [shown]
    | cons d more => rfl

theorem strip_of_letters {s : String} (word : ∀ c ∈ s.toList, c.isAlpha) : strip s = s := by
  have kept : s.toList.dropWhile isBlank = s.toList := by
    cases parts : s.toList with
    | nil => rfl
    | cons c rest =>
      have letter : c.isAlpha := word c (by simp [parts])
      simp [isBlank_of_letter letter]
  rw [strip, kept, stripEndChars_of_letters word, String.ofList_toList]

end MemberDocs.Text
