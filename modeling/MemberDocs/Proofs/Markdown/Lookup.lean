import MemberDocs.Markdown.Rule
import MemberDocs.Proofs.Doc.Placement

/-! # The names of the look-up

The name under which an element is looked up is its own, or one of the few that are made for
members, references and parameters (`effectiveName_mem`). An element whose own name calls for none
of these goes by its own name, wherever it stands (`effectiveName_of_plain`), so does one without a
standard rule (`effectiveName_of_unknown`), and no element is ever looked up as `see`
(`effectiveName_ne_see`). Places have no part in it.
-/

namespace MemberDocs.Markdown

/-- The names that elements are looked up under without bearing them. -/
def derivedNames : List String :=
  ["field", "property", "type", "event", "method", "none", "see-langword", "see-anchor", "see-page",
    "first-param"]

theorem MemberKind.ruleName_mem (kind : MemberKind) : kind.ruleName ∈ derivedNames := by
  cases kind <;> decide

theorem effectiveName_mem (tag : Tag) (previous : Option Tag) :
    effectiveName tag previous ∈ tag.name :: derivedNames := by
  unfold effectiveName
  split
  · split
    · exact List.mem_cons_of_mem _ (MemberKind.ruleName_mem _)
    · exact List.mem_cons_of_mem _ (by decide)
  · split
    · split
      · exact List.mem_cons_of_mem _ (by decide)
      · split
        · split <;> exact List.mem_cons_of_mem _ (by decide)
        · exact List.mem_cons_of_mem _ (by decide)
    · split
      · exact List.mem_cons_of_mem _ (by decide)
      · exact List.mem_cons_self

/-- Names that are never derived are borne by the elements that are looked up under them. -/
theorem name_eq_of_effectiveName {tag : Tag} {previous : Option Tag} {name : String}
    (lookedUp : effectiveName tag previous = name) (underived : name ∉ derivedNames) :
    tag.name = name := by
  rcases List.mem_cons.mp (effectiveName_mem tag previous) with own | derived
  · exact own.symm.trans lookedUp
  · exact absurd (lookedUp ▸ derived) underived

/-- An element that is neither a member nor a reference nor a parameter goes by its name. -/
theorem effectiveName_of_plain {tag : Tag} (previous : Option Tag) (notMember : tag.name ≠ "member")
    (notSee : tag.name ≠ "see")
    (notParameter : "param".toList.isSuffixOf tag.name.toList = false) :
    effectiveName tag previous = tag.name := by
  simp only [effectiveName, notMember, notSee, notParameter, ↓reduceIte, Bool.false_and,
    Bool.false_eq_true]

/-- Every name that is made for an element has a standard rule. -/
theorem isSome_find?_of_derived : ∀ name ∈ derivedNames, (standardRules.find? name).isSome := by
  decide

/-- An element without a standard rule goes by the name that it bears. -/
theorem effectiveName_of_unknown {tag : Tag} {previous : Option Tag}
    (unknown : standardRules.find? (effectiveName tag previous) = none) :
    effectiveName tag previous = tag.name := by
  rcases List.mem_cons.mp (effectiveName_mem tag previous) with own | derived
  · exact own
  · have known := isSome_find?_of_derived _ derived
    rw [unknown] at known
    cases known

theorem effectiveName_ne_see (tag : Tag) (previous : Option Tag) :
    effectiveName tag previous ≠ "see" := by
  intro lookedUp
  have named := name_eq_of_effectiveName lookedUp (by decide)
  unfold effectiveName at lookedUp
  simp only [named, String.reduceEq, ↓reduceIte] at lookedUp
  split at lookedUp
  · simp at lookedUp
  · split at lookedUp
    · split at lookedUp <;> simp at lookedUp
    · simp at lookedUp

@[simp] theorem effectiveName_bare (tag : Tag) (previous : Option Tag) :
    effectiveName tag.bare (previous.map Tag.bare) = effectiveName tag previous := by
  cases previous <;> rfl

end MemberDocs.Markdown
