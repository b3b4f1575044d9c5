import MemberDocs.Proofs.Markdown.Reach
import MemberDocs.Proofs.Result

/-! # Rendering, step by step

The equations of rendering for an element and for neighbouring parts. A standard rule can always be
applied: its extract has a value for every slot of its template
(`TagRule.exists_apply_of_standard`). So the only faults of rendering are elements without a rule.
-/

namespace MemberDocs.Markdown

/-- How many values an extract gives. -/
def Extract.arity : Extract → Nat
  | .body | .reference | .attributeAlone _ | .keyword => 1
  | .attributeAndBody _ | .member | .document | .anchor | .code => 2
  | .nothing => 0

theorem Extract.length_values (extract : Extract) (tag : Tag) (children : List Node)
    (outer : Option String) (rendered : String) :
    (extract.values tag children outer rendered).length = extract.arity := by
  cases extract <;> rfl

/-- The slots of a template. -/
def Template.slots (template : Template) : List Nat :=
  template.filterMap fun
    | .slot index => some index
    | .literal _ => none

/-- No standard rule has a slot that its extract has no value for. -/
theorem standardRules_slots : ∀ entry ∈ standardRules, ∀ index ∈ Template.slots entry.2.template,
    index < entry.2.extract.arity := by
  decide

/-- A standard rule can be applied to any element. -/
theorem TagRule.exists_apply_of_standard {rule : TagRule} {name : String}
    (found : standardRules.find? name = some rule) (tag : Tag) (children : List Node)
    (outer : Option String) (rendered : String) :
    ∃ text, rule.apply tag children outer rendered = .ok text := by
  have enough : ∀ index, Piece.slot index ∈ rule.template →
      index < (rule.extract.values tag children outer rendered).length := by
    intro index member
    rw [Extract.length_values]
    exact standardRules_slots _ (mem_of_lookup found) index
      (List.mem_filterMap.mpr ⟨.slot index, member, rfl⟩)
  obtain ⟨text, filled⟩ := Template.exists_fill enough
  exact ⟨text, by simp [TagRule.apply, filled, Except.mapError]⟩

variable {table : RuleTable} {context : Option String} {previous : Option Tag}

@[simp] theorem renderNode_text (content : String) (position : Position) :
    renderNode table context previous (.text content position) = .ok (Text.collapse content) := by
  rw [renderNode]

theorem renderNode_of_unknown {tag : Tag} (children : List Node)
    (unknown : table.find? (effectiveName tag previous) = none) :
    renderNode table context previous (.element tag children) =
      .error (.unknownTag ⟨effectiveName tag previous, tag.position⟩) := by
  rw [renderNode, unknown]

theorem renderNode_of_rule {tag : Tag} (children : List Node) {rule : TagRule}
    (found : table.find? (effectiveName tag previous) = some rule) :
    renderNode table context previous (.element tag children) =
      (renderNodes table (rule.extract.context children context)
        (rule.extract.visits children)).bind (rule.apply tag children context) := by
  rw [renderNode, found, renderNodes]
  dsimp only
  cases renderSiblings table (rule.extract.context children context) none
    (rule.extract.visits children) <;> rfl

/-- A rule whose template shows one value of the element and then what is rendered below it. -/
theorem TagRule.apply_section {extract : Extract} {tag : Tag} {children : List Node}
    {title body : String} (values : extract.values tag children context body = [title, body])
    (front middle back : String) :
    TagRule.apply ⟨[.literal front, .slot 0, .literal middle, .slot 1, .literal back], extract⟩ tag
        children context body =
      .ok (front ++ title ++ middle ++ body ++ back) := by
  simp [apply, values, Template.fill, Except.map, Except.mapError, String.append_assoc]

theorem renderNode_of_section {tag : Tag} (children : List Node) {extract : Extract}
    {front title middle back : String}
    (found : table.find? (effectiveName tag previous) = some
      ⟨[.literal front, .slot 0, .literal middle, .slot 1, .literal back], extract⟩)
    (values : ∀ body, extract.values tag children context body = [title, body]) :
    renderNode table context previous (.element tag children) =
      (renderNodes table (extract.context children context) (extract.visits children)).map
        fun body => front ++ title ++ middle ++ body ++ back := by
  rw [renderNode_of_rule children found]
  cases renderNodes table (extract.context children context) (extract.visits children) with
  | error error => rfl
  | ok body => exact TagRule.apply_section (values body) front middle back

@[simp] theorem renderSiblings_nil : renderSiblings table context previous [] = .ok "" := by
  rw [renderSiblings]

theorem renderSiblings_cons (node : Node) (rest : List Node) :
    renderSiblings table context previous (node :: rest) =
      (renderNode table context previous node).bind fun first =>
        (renderSiblings table context (node.tag?.or previous) rest).map (first ++ ·) := by
  rw [renderSiblings]
  cases renderNode table context previous node with
  | error error => rfl
  | ok first => cases renderSiblings table context (node.tag?.or previous) rest <;> rfl

end MemberDocs.Markdown
