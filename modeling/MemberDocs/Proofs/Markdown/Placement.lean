import MemberDocs.Proofs.Markdown.Lookup
import MemberDocs.Proofs.Markdown.Step

/-! # Places and rendering

Rendering reads the places of a tree for its reports only: a tree and the tree without its places
have the same Markdown, or have none (`toOption_renderNode_unplaced`).
-/

namespace MemberDocs.Markdown

open Node (unplacedAll)

theorem assemblyName_unplacedAll (children : List Node) :
    assemblyName (unplacedAll children) = assemblyName children := by
  unfold assemblyName
  rw [Node.child?_unplacedAll]
  cases Node.child? "assembly" children with
  | none => rfl
  | some assembly =>
    simp only [Option.map_some, Element.unplaced, Node.child?_unplacedAll]
    cases Node.child? "name" assembly.children with
    | none => rfl
    | some name => exact Node.textContentAll_unplacedAll name.children

theorem documentMembers_unplacedAll (children : List Node) :
    documentMembers (unplacedAll children) = unplacedAll (documentMembers children) := by
  unfold documentMembers
  rw [Node.child?_unplacedAll]
  cases Node.child? "members" children with
  | none => rfl
  | some members => exact Node.filter_isNamed_unplacedAll "member" members.children

namespace Extract

variable (extract : Extract) (children : List Node)

theorem visits_unplacedAll :
    extract.visits (unplacedAll children) = unplacedAll (extract.visits children) := by
  cases extract with
  | document => exact documentMembers_unplacedAll children
  | _ => rfl

theorem context_unplacedAll (outer : Option String) :
    extract.context (unplacedAll children) outer = extract.context children outer := by
  cases extract with
  | document => exact congrArg some (assemblyName_unplacedAll children)
  | _ => rfl

theorem values_unplacedAll (tag : Tag) (outer : Option String) (rendered : String) :
    extract.values tag.bare (unplacedAll children) outer rendered =
      extract.values tag children outer rendered := by
  cases extract <;>
    simp [values, assemblyName_unplacedAll, referenceLabel, Node.textContentAll_unplacedAll]

end Extract

variable {rules : RuleTable}

theorem toOption_renderSiblings_unplacedAll {nodes : List Node}
    (each : ∀ node ∈ nodes, ∀ context previous,
      (renderNode rules context (previous.map Tag.bare) node.unplaced).toOption =
        (renderNode rules context previous node).toOption)
    (context : Option String) (previous : Option Tag) :
    (renderSiblings rules context (previous.map Tag.bare) (unplacedAll nodes)).toOption =
      (renderSiblings rules context previous nodes).toOption := by
  induction nodes generalizing previous with
  | nil => simp
  | cons node rest ih =>
    have later := ih (fun part member => each part (List.mem_cons_of_mem node member))
      (node.tag?.or previous)
    have follows : (node.tag?.map Tag.bare).or (previous.map Tag.bare) =
        (node.tag?.or previous).map Tag.bare := by
      cases node.tag? <;> rfl
    simp only [Node.unplacedAll_cons, renderSiblings_cons, Node.tag?_unplaced, follows,
      toOption_bind, toOption_map, each node List.mem_cons_self context previous, later]

/-- A tree has the Markdown that it has without its places. -/
theorem toOption_renderNode_unplaced (node : Node) (context : Option String)
    (previous : Option Tag) :
    (renderNode rules context (previous.map Tag.bare) node.unplaced).toOption =
      (renderNode rules context previous node).toOption := by
  induction node using Node.visitInduction generalizing context previous with
  | text content position => simp
  | element tag children ih =>
    rw [Node.unplaced_element]
    cases found : rules.find? (effectiveName tag previous) with
    | none =>
      rw [renderNode_of_unknown children found,
        renderNode_of_unknown _ (by rw [effectiveName_bare, found])]
      rfl
    | some rule =>
      have siblings := toOption_renderSiblings_unplacedAll (ih rule.extract)
        (rule.extract.context children context) none
      have applied : rule.apply tag.bare (unplacedAll children) context =
          rule.apply tag children context := by
        funext rendered
        rw [TagRule.apply, TagRule.apply, Extract.values_unplacedAll]
      rw [renderNode_of_rule children found,
        renderNode_of_rule _ (by rw [effectiveName_bare, found]), Extract.visits_unplacedAll,
        Extract.context_unplacedAll, applied, toOption_bind, toOption_bind]
      exact congrArg (Option.bind · _) siblings

/-- Trees that differ in their places only have the same Markdown. -/
theorem toOption_renderMarkdown_congr {first second : Node} (same : first.unplaced = second.unplaced)
    (context : Option String) :
    (renderMarkdown rules context first).toOption =
      (renderMarkdown rules context second).toOption := by
  have rendered : (renderNode rules context none first).toOption =
      (renderNode rules context none second).toOption :=
    (toOption_renderNode_unplaced first context none).symm.trans
      (same ▸ toOption_renderNode_unplaced second context none)
  rw [renderMarkdown, renderMarkdown, toOption_map, toOption_map, rendered]

end MemberDocs.Markdown
