import MemberDocs.Markdown.Render
import MemberDocs.Proofs.Association
import MemberDocs.Proofs.Doc.Building

/-! # Reached elements

Rendering walks over a part of the tree only. The rules whose names are `bodyRuleNames` open all
children of their element, the rule for documents opens the members, and no other rule opens
anything (`TagRule.RendersBody`, `TagRule.RendersMembers`). This gives the elements that are reached
from a part of a tree (`Reached`), each by the child positions that lead to it, with the nearest
element before it among the parts that are opened with it. Positions are compared as lists of
numbers, which is the order of the document: an element comes before what is below it, and what is
below a child before what is below the next one.

The table of rules is one of standard rules under any names (`RuleTable.FromStandard`): the standard
table is one, and so is every table made from one by aliases and by leaving out names.
-/

namespace MemberDocs

/-- The nearest element at the end of some parts. -/
def Node.lastTag? (nodes : List Node) : Option Tag :=
  (nodes.filterMap Node.tag?).getLast?

@[simp] theorem Node.lastTag?_nil : Node.lastTag? [] = none := rfl

theorem Node.lastTag?_cons (node : Node) (nodes : List Node) :
    Node.lastTag? (node :: nodes) = (Node.lastTag? nodes).or node.tag? := by
  cases node with
  | text content position => simp [lastTag?, tag?]
  | element tag children =>
    cases tags : nodes.filterMap Node.tag? with
    | nil => simp [lastTag?, tag?, tags]
    | cons first rest =>
      simp [lastTag?, tag?, tags, List.getLast?_eq_some_getLast (List.cons_ne_nil first rest)]

/-- An induction over what is rendered: an element comes after the parts that any rule could visit
below it. -/
@[elab_as_elim]
theorem Node.visitInduction {motive : Node → Prop}
    (text : ∀ content position, motive (.text content position))
    (element : ∀ tag children,
      (∀ (extract : Markdown.Extract), ∀ node ∈ extract.visits children, motive node) →
        motive (.element tag children)) (node : Node) : motive node := by
  cases node with
  | text content position => exact text content position
  | element tag children =>
    refine element tag children fun extract part member => ?_
    have smaller := List.sizeOf_lt_of_mem member
    have bounded := extract.sizeOf_visits_le children
    exact Node.visitInduction text element part
termination_by sizeOf node
decreasing_by
  simp
  omega

end MemberDocs

namespace MemberDocs.Markdown

/-! ## Tables of standard rules -/

/-- Every rule of the table is a standard one, under whatever name. -/
def RuleTable.FromStandard (table : RuleTable) : Prop :=
  ∀ name rule, table.find? name = some rule →
    ∃ standard, standardRules.find? standard = some rule

namespace RuleTable

theorem fromStandard_standardRules : standardRules.FromStandard :=
  fun name _ found => ⟨name, found⟩

theorem find?_erase (table : RuleTable) (names : List String) (name : String) :
    (table.erase names).find? name = if names.contains name then none else table.find? name := by
  unfold find? erase
  rw [lookup_filter_key (fun key => !names.contains key)]
  cases names.contains name <;> simp

theorem find?_insert (table : RuleTable) (new : String) (rule : TagRule) (name : String) :
    (table.insert new rule).find? name = if name = new then some rule else table.find? name := by
  unfold find? insert
  by_cases same : name = new
  · simp [same]
  · have other : (name == new) = false := by simpa using same
    rw [List.lookup_cons, lookup_filter_key fun key => decide (key ≠ new)]
    simp [same, other]

/-- Leaving out names keeps the rules standard. -/
theorem FromStandard.erase {table : RuleTable} (standard : table.FromStandard)
    (names : List String) : (table.erase names).FromStandard := by
  intro name rule found
  rw [find?_erase] at found
  split at found
  · simp at found
  · exact standard name rule found

/-- An alias for a standard rule keeps the rules standard. -/
theorem FromStandard.insert {table : RuleTable} (standard : table.FromStandard) (new : String)
    {old : String} {rule : TagRule} (original : standardRules.find? old = some rule) :
    (table.insert new rule).FromStandard := by
  intro name other found
  rw [find?_insert] at found
  split at found
  · exact ⟨old, found ▸ original⟩
  · exact standard name other found

end RuleTable

/-! ## What a rule opens -/

/-- The names of the standard rules that show the body of their element. -/
def bodyRuleNames : List String :=
  ["type", "field", "property", "method", "event", "summary", "value", "remarks", "example", "para",
    "see-page", "see-anchor", "first-param", "typeparam", "param", "paramref", "exception",
    "returns", "c", "list", "item", "term", "description", "listheader"]

namespace TagRule

/-- The rule is that of a name in `bodyRuleNames`. -/
def RendersBody (rule : TagRule) : Prop :=
  ∃ name ∈ bodyRuleNames, standardRules.find? name = some rule

/-- The rule is that for documents. -/
def RendersMembers (rule : TagRule) : Prop :=
  standardRules.find? "doc" = some rule

end TagRule

/-- The extract takes all children. -/
def Extract.opensBody : Extract → Bool
  | .body | .attributeAndBody _ | .member | .anchor => true
  | .document | .reference | .attributeAlone _ | .keyword | .code | .nothing => false

theorem Extract.visits_of_opensBody {extract : Extract} (opens : extract.opensBody)
    (children : List Node) : extract.visits children = children := by
  cases extract <;> simp_all [opensBody, visits]

theorem Extract.visits_of_closed {extract : Extract} (closed : extract.opensBody = false)
    (other : extract ≠ .document) (children : List Node) : extract.visits children = [] := by
  cases extract <;> simp_all [opensBody, visits]

/-- Which standard rules take the children of their element, and which the members. -/
theorem standardRules_scope : ∀ entry ∈ standardRules,
    (entry.2.extract.opensBody = true ↔ entry.1 ∈ bodyRuleNames) ∧
      (entry.2.extract = .document ↔ entry.1 = "doc") := by
  decide

namespace TagRule

variable {rule : TagRule}

theorem RendersBody.opensBody (rendersBody : rule.RendersBody) : rule.extract.opensBody := by
  obtain ⟨name, listed, found⟩ := rendersBody
  exact ((standardRules_scope _ (mem_of_lookup found)).1).mpr listed

theorem RendersMembers.extract_eq (rendersMembers : rule.RendersMembers) :
    rule.extract = .document :=
  ((standardRules_scope _ (mem_of_lookup rendersMembers)).2).mpr rfl

theorem scope_of_standard {name : String} (found : standardRules.find? name = some rule) :
    (rule.extract.opensBody = true → rule.RendersBody) ∧
      (rule.extract = .document → rule.RendersMembers) := by
  have scope := standardRules_scope _ (mem_of_lookup found)
  refine ⟨fun opens => ⟨name, scope.1.mp opens, found⟩, fun isDocument => ?_⟩
  obtain rfl : name = "doc" := scope.2.mp isDocument
  exact found

end TagRule

/-! ## What is reached -/

/-- A reached element: its head, and the nearest element before it among the parts that are opened
with it. -/
structure Visit where
  tag : Tag
  previous : Option Tag
deriving DecidableEq, Repr

namespace Visit

/-- The name under which the element is looked up. -/
def name (visit : Visit) : String := effectiveName visit.tag visit.previous

/-- The table has no rule for the element. -/
def IsUnknown (table : RuleTable) (visit : Visit) : Prop := table.find? visit.name = none

/-- The element as it is reported if it has no rule. -/
def report (visit : Visit) : UnknownTag := ⟨visit.name, visit.tag.position⟩

end Visit

/-- The elements that are reached from a part of a tree that follows `previous`, each with the child
positions that lead to it. -/
inductive Reached (table : RuleTable) : Option Tag → Node → List Nat → Visit → Prop
  /-- The element itself. -/
  | here (previous : Option Tag) (tag : Tag) (children : List Node) :
      Reached table previous (.element tag children) [] ⟨tag, previous⟩
  /-- What is reached from a child, if the rule of the element shows its body. -/
  | child {previous : Option Tag} {tag : Tag} {children : List Node} {rule : TagRule} {i : Nat}
      {part : Node} {path : List Nat} {visit : Visit} :
      table.find? (effectiveName tag previous) = some rule → rule.RendersBody →
      children[i]? = some part →
      Reached table (Node.lastTag? (children.take i)) part path visit →
      Reached table previous (.element tag children) (i :: path) visit
  /-- What is reached from a `member` child of the first `members` child, if the rule of the element
  is that for documents. -/
  | member {previous : Option Tag} {tag : Tag} {children : List Node} {rule : TagRule} {i j : Nat}
      {members : Tag} {parts : List Node} {part : Node} {path : List Nat} {visit : Visit} :
      table.find? (effectiveName tag previous) = some rule → rule.RendersMembers →
      children[i]? = some (.element members parts) → members.name = "members" →
      (∀ earlier ∈ children.take i, earlier.isNamed "members" = false) →
      parts[j]? = some part → part.isNamed "member" →
      Reached table (Node.lastTag? ((parts.take j).filter (Node.isNamed "member"))) part path visit →
      Reached table previous (.element tag children) (i :: j :: path) visit

/-- What is reached is in the tree. -/
theorem Reached.holds {table : RuleTable} {previous : Option Tag} {node : Node} {path : List Nat}
    {visit : Visit} (reached : Reached table previous node path visit) : node.Holds visit.tag := by
  induction reached with
  | here => exact .here
  | child _ _ place _ ih => exact .child (List.mem_of_getElem? place) ih
  | member _ _ place _ _ inner _ _ ih =>
    exact .child (List.mem_of_getElem? place) (.child (List.mem_of_getElem? inner) ih)

end MemberDocs.Markdown
