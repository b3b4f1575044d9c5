import MemberDocs.Proofs.Markdown.Outline

/-! # The skeleton of a tree

What a rendering can read of a tree besides the texts that it shows: the names and attributes of the
elements, the shape of the tree, the text of the elements that are shown as they are (`rawNames`), and
the assembly names of documents. All places and all other texts are taken out (`Node.skeleton`). The
row of a tree without its texts is that of its skeleton (`outline?_skeleton`).
-/

namespace MemberDocs

open Markdown (assemblyName)

/-- The elements whose text is taken as it is. -/
def rawNames : List String := ["code", "seealso", "langword"]

/-- An element that states an assembly name. -/
def assemblyPart (name : String) : Node :=
  .element { name := "assembly" } [.element { name := "name" } [.text name {}]]

namespace Node

mutual

/-- A part of a tree without its places and texts. The text of an element that is shown as it is
stands in one piece, and the assembly name of a document before what is left of its children. -/
def skeleton : Node → Node
  | .text _ _ => .text "" {}
  | .element tag children =>
    if tag.name ∈ rawNames then .element tag.bare [.text (textContentAll children) {}]
    else if tag.name = "doc" then
      .element tag.bare (assemblyPart (assemblyName children) :: skeletonAll children)
    else .element tag.bare (skeletonAll children)

/-- Neighbouring parts without their places and texts. -/
def skeletonAll : List Node → List Node
  | [] => []
  | node :: rest => node.skeleton :: skeletonAll rest

end

theorem skeletonAll_eq_map (nodes : List Node) : skeletonAll nodes = nodes.map skeleton := by
  induction nodes with
  | nil => rfl
  | cons node rest ih => rw [skeletonAll, ih, List.map_cons]

theorem skeleton_text (content : String) (position : Position) :
    skeleton (.text content position) = .text "" {} := by
  rw [skeleton]

/-- The children of an element in its skeleton. -/
def skeletonParts (tag : Tag) (children : List Node) : List Node :=
  if tag.name ∈ rawNames then [.text (textContentAll children) {}]
  else if tag.name = "doc" then assemblyPart (assemblyName children) :: skeletonAll children
  else skeletonAll children

theorem skeleton_element (tag : Tag) (children : List Node) :
    skeleton (.element tag children) = .element tag.bare (skeletonParts tag children) := by
  rw [skeleton, skeletonParts]
  split
  · rfl
  · split <;> rfl

theorem tag?_skeleton (node : Node) : node.skeleton.tag? = node.tag?.map Tag.bare := by
  cases node with
  | text content position => rw [skeleton_text]; rfl
  | element tag children =>
    rw [skeleton_element]
    rfl

theorem isNamed_skeleton (name : String) (node : Node) :
    node.skeleton.isNamed name = node.isNamed name := by
  cases node with
  | text content position => rw [skeleton_text]; rfl
  | element tag children =>
    rw [skeleton_element]
    rfl

theorem filter_isNamed_skeletonAll (name : String) (nodes : List Node) :
    (skeletonAll nodes).filter (isNamed name) = skeletonAll (nodes.filter (isNamed name)) := by
  rw [skeletonAll_eq_map, skeletonAll_eq_map, List.filter_map]
  congr 2
  funext node
  exact isNamed_skeleton name node

theorem child?_skeletonAll {name : String} (notRaw : name ∉ rawNames) (notDocument : name ≠ "doc")
    (nodes : List Node) :
    child? name (skeletonAll nodes) =
      (child? name nodes).map fun e => ⟨e.tag.bare, skeletonAll e.children⟩ := by
  induction nodes with
  | nil => rfl
  | cons node rest ih =>
    rw [skeletonAll]
    cases node with
    | text content position => rw [skeleton_text, child?, child?, ih]
    | element tag children =>
      by_cases same : tag.name = name
      · subst same
        simp [skeleton_element, skeletonParts, notRaw, notDocument, child?]
      · simp [skeleton_element, child?, same, ih]

end Node

end MemberDocs

namespace MemberDocs.Markdown

open Node (skeletonAll skeletonParts textContentAll)

theorem assemblyName_assemblyPart (name : String) (rest : List Node) :
    assemblyName (assemblyPart name :: rest) = name := by
  simp [assemblyName, assemblyPart, Node.child?, Element.textContent, Node.textContentAll,
    Node.textContent]

theorem documentMembers_skeleton (name : String) (children : List Node) :
    documentMembers (assemblyPart name :: skeletonAll children) =
      skeletonAll (documentMembers children) := by
  have found := Node.child?_skeletonAll (show "members" ∉ rawNames by decide) (by decide) children
  have skipped : Node.child? "members" (assemblyPart name :: skeletonAll children) =
      Node.child? "members" (skeletonAll children) := by
    simp [assemblyPart, Node.child?]
  unfold documentMembers
  rw [skipped, found]
  cases Node.child? "members" children with
  | none => rfl
  | some members => exact Node.filter_isNamed_skeletonAll "member" members.children

/-- Which standard rules read the text of their element. -/
theorem standardRules_raw : ∀ entry ∈ standardRules,
    (entry.2.extract = .reference ∨ entry.2.extract = .keyword ∨ entry.2.extract = .code) →
      entry.1 ∈ "see" :: rawNames := by
  decide

section StandardRule

variable {tag : Tag} {previous : Option Tag} {rule : TagRule}
  (found : standardRules.find? (effectiveName tag previous) = some rule)

include found

/-- An element whose rule reads its text has it in its skeleton. -/
theorem name_mem_rawNames
    (reads : rule.extract = .reference ∨ rule.extract = .keyword ∨ rule.extract = .code) :
    tag.name ∈ rawNames := by
  rcases List.mem_cons.mp (standardRules_raw _ (mem_of_lookup found) reads) with isSee | raw
  · exact absurd isSee (effectiveName_ne_see tag previous)
  · have underived : ∀ name ∈ rawNames, name ∉ derivedNames := by decide
    exact name_eq_of_effectiveName rfl (underived _ raw) ▸ raw

/-- An element whose rule shows its body is plain in its skeleton. -/
theorem skeletonParts_of_opensBody (opens : rule.extract.opensBody) (children : List Node) :
    skeletonParts tag children = skeletonAll children := by
  have listed := ((standardRules_scope _ (mem_of_lookup found)).1).mp opens
  have plain : ∀ name ∈ "doc" :: rawNames, "param".toList.isSuffixOf name.toList = false ∧
      name ≠ "member" ∧ name ≠ "see" ∧ name ∉ bodyRuleNames := by
    decide
  have other : tag.name ∉ "doc" :: rawNames := by
    intro special
    obtain ⟨notParameter, notMember, notSee, unlisted⟩ := plain _ special
    rw [effectiveName_of_plain previous notMember notSee notParameter] at listed
    exact unlisted listed
  rw [List.mem_cons, not_or] at other
  rw [skeletonParts, if_neg other.2, if_neg other.1]

theorem skeletonParts_of_document (isDocument : rule.extract = .document) (children : List Node) :
    skeletonParts tag children = assemblyPart (assemblyName children) :: skeletonAll children := by
  have isDoc := ((standardRules_scope _ (mem_of_lookup found)).2).mp isDocument
  have named : tag.name = "doc" := name_eq_of_effectiveName isDoc (by decide)
  rw [skeletonParts, if_neg (by rw [named]; decide), if_pos named]

theorem visits_skeletonParts (children : List Node) :
    rule.extract.visits (skeletonParts tag children) =
      skeletonAll (rule.extract.visits children) := by
  by_cases opens : rule.extract.opensBody
  · rw [Extract.visits_of_opensBody opens, Extract.visits_of_opensBody opens,
      skeletonParts_of_opensBody found opens]
  by_cases isDocument : rule.extract = .document
  · rw [skeletonParts_of_document found isDocument, isDocument, Extract.visits, Extract.visits,
      documentMembers_skeleton]
  · have closed : rule.extract.opensBody = false := by simpa using opens
    rw [Extract.visits_of_closed closed isDocument, Extract.visits_of_closed closed isDocument]
    rfl

theorem context_skeletonParts (children : List Node) (context : Option String) :
    rule.extract.context (skeletonParts tag children) context =
      rule.extract.context children context := by
  cases extract : rule.extract with
  | document =>
    rw [skeletonParts_of_document found extract]
    simp [Extract.context, assemblyName_assemblyPart]
  | _ => rfl

theorem values_skeletonParts (children : List Node) (outer : Option String) (rendered : String) :
    rule.extract.values tag.bare (skeletonParts tag children) outer rendered =
      rule.extract.values tag children outer rendered := by
  have text (raw : tag.name ∈ rawNames) :
      textContentAll (skeletonParts tag children) = textContentAll children := by
    rw [skeletonParts, if_pos raw]
    simp [Node.textContentAll, Node.textContent]
  cases extract : rule.extract with
  | document =>
    rw [skeletonParts_of_document found extract]
    simp [Extract.values, assemblyName_assemblyPart]
  | reference =>
    have raw := name_mem_rawNames found (.inl extract)
    simp [Extract.values, referenceLabel, text raw]
  | keyword =>
    have raw := name_mem_rawNames found (.inr (.inl extract))
    simp [Extract.values, text raw]
  | code =>
    have raw := name_mem_rawNames found (.inr (.inr extract))
    simp [Extract.values, text raw]
  | _ => simp [Extract.values]

end StandardRule

/-! ## Rows of skeletons -/

theorem Extract.rows_map_blank {extract : Extract} {tag bareTag : Tag} {children parts : List Node}
    {outer : Option String} (same : extract.values bareTag parts outer "" =
      extract.values tag children outer "") (body : List Chunk) :
    extract.rows bareTag parts outer (body.map Chunk.blank) =
      (extract.rows tag children outer body).map (List.map Chunk.blank) := by
  cases extract <;> simp_all [rows, bodySlot?, values, Chunk.blank]

theorem Template.fillRows_map_blank (rows : List (List Chunk)) (template : Template) :
    template.fillRows (rows.map (List.map Chunk.blank)) =
      (template.fillRows rows).map Chunk.blank := by
  induction template with
  | nil => rfl
  | cons piece rest ih =>
    cases piece with
    | literal text => simp [fillRows, ih, Chunk.blank]
    | slot index => cases present : rows[index]? <;> simp [fillRows, ih, present]

theorem outlineSiblings?_skeletonAll {nodes : List Node}
    (each : ∀ node ∈ nodes, ∀ context previous,
      outline? context (previous.map Tag.bare) node.skeleton =
        (outline? context previous node).map (List.map Chunk.blank))
    (context : Option String) (previous : Option Tag) :
    outlineSiblings? context (previous.map Tag.bare) (skeletonAll nodes) =
      (outlineSiblings? context previous nodes).map (List.map Chunk.blank) := by
  induction nodes generalizing previous with
  | nil =>
    rw [skeletonAll, outlineSiblings?_nil, outlineSiblings?_nil]
    rfl
  | cons node rest ih =>
    have later := ih (fun part member => each part (List.mem_cons_of_mem node member))
      (node.tag?.or previous)
    have follows : (node.tag?.map Tag.bare).or (previous.map Tag.bare) =
        (node.tag?.or previous).map Tag.bare := by
      cases node.tag? <;> rfl
    rw [skeletonAll, outlineSiblings?_cons, outlineSiblings?_cons,
      each node List.mem_cons_self context previous, Node.tag?_skeleton, follows, later]
    cases outline? context previous node with
    | none => rfl
    | some first =>
      cases outlineSiblings? context (node.tag?.or previous) rest with
      | none => rfl
      | some others => simp

/-- **The skeleton has the row without its texts.** -/
theorem outline?_skeleton (node : Node) (context : Option String) (previous : Option Tag) :
    outline? context (previous.map Tag.bare) node.skeleton =
      (outline? context previous node).map (List.map Chunk.blank) := by
  induction node using Node.visitInduction generalizing context previous with
  | text content position =>
    rw [Node.skeleton_text, outline?_text, outline?_text]
    rfl
  | element tag children ih =>
    rw [Node.skeleton_element]
    cases found : standardRules.find? (effectiveName tag previous) with
    | none =>
      rw [outline?_of_unknown children found,
        outline?_of_unknown _ (by rw [effectiveName_bare, found])]
      rfl
    | some rule =>
      have siblings := outlineSiblings?_skeletonAll (ih rule.extract)
        (rule.extract.context children context) none
      rw [outline?_of_rule children found,
        outline?_of_rule _ (by rw [effectiveName_bare, found]), visits_skeletonParts found,
        context_skeletonParts found]
      rw [Option.map_none] at siblings
      rw [siblings]
      cases outlineSiblings? (rule.extract.context children context) none
          (rule.extract.visits children) with
      | none => rfl
      | some body =>
        have rows := Extract.rows_map_blank (values_skeletonParts found children context "") body
        simp [rows, Template.fillRows_map_blank]

end MemberDocs.Markdown
