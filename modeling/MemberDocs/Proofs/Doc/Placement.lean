import MemberDocs.Doc.Node

/-! # Trees without their places

Documents that differ in their layout have trees that differ in their places. A tree without its
places (`Node.unplaced`, `Element.unplaced`) keeps its names, attributes, texts and shape, and so all
that can be asked of a tree: its elements (`child?_unplacedAll`) and its text
(`textContentAll_unplacedAll`).
-/

namespace MemberDocs

/-- A head without its place. -/
def Tag.bare (tag : Tag) : Tag := { tag with position := {} }

@[simp] theorem Tag.bare_name (tag : Tag) : tag.bare.name = tag.name := rfl

@[simp] theorem Tag.attribute?_bare (tag : Tag) (key : String) :
    tag.bare.attribute? key = tag.attribute? key := rfl

@[simp] theorem Tag.attributeOrEmpty_bare (tag : Tag) (key : String) :
    tag.bare.attributeOrEmpty key = tag.attributeOrEmpty key := rfl

namespace Node

mutual

/-- A part of a tree without its places. -/
def unplaced : Node → Node
  | .text content _ => .text content {}
  | .element tag children => .element tag.bare (unplacedAll children)

/-- Neighbouring parts without their places. -/
def unplacedAll : List Node → List Node
  | [] => []
  | node :: rest => node.unplaced :: unplacedAll rest

end

@[simp] theorem unplaced_text (content : String) (position : Position) :
    unplaced (.text content position) = .text content {} := by
  rw [unplaced]

@[simp] theorem unplaced_element (tag : Tag) (children : List Node) :
    unplaced (.element tag children) = .element tag.bare (unplacedAll children) := by
  rw [unplaced]

theorem unplacedAll_eq_map (nodes : List Node) : unplacedAll nodes = nodes.map unplaced := by
  induction nodes with
  | nil => rfl
  | cons node rest ih => rw [unplacedAll, ih, List.map_cons]

@[simp] theorem unplacedAll_nil : unplacedAll [] = [] := rfl

@[simp] theorem unplacedAll_cons (node : Node) (rest : List Node) :
    unplacedAll (node :: rest) = node.unplaced :: unplacedAll rest := by
  rw [unplacedAll]

@[simp] theorem unplacedAll_append (first second : List Node) :
    unplacedAll (first ++ second) = unplacedAll first ++ unplacedAll second := by
  simp [unplacedAll_eq_map]

@[simp] theorem tag?_unplaced (node : Node) : node.unplaced.tag? = node.tag?.map Tag.bare := by
  cases node with
  | text content position => simp [tag?]
  | element tag children => simp [tag?]

@[simp] theorem isNamed_unplaced (name : String) (node : Node) :
    node.unplaced.isNamed name = node.isNamed name := by
  cases node with
  | text content position => simp [isNamed]
  | element tag children =>
    rw [unplaced_element]
    rfl

theorem filter_isNamed_unplacedAll (name : String) (nodes : List Node) :
    (unplacedAll nodes).filter (isNamed name) = unplacedAll (nodes.filter (isNamed name)) := by
  rw [unplacedAll_eq_map, unplacedAll_eq_map, List.filter_map]
  congr 2
  funext node
  exact isNamed_unplaced name node

end Node

/-- An element without its places. -/
def Element.unplaced (e : Element) : Element :=
  ⟨e.tag.bare, Node.unplacedAll e.children⟩

@[simp] theorem Element.toNode_unplaced (e : Element) : e.unplaced.toNode = e.toNode.unplaced := by
  simp [Element.unplaced, Element.toNode]

namespace Node

theorem child?_unplacedAll (name : String) (nodes : List Node) :
    child? name (unplacedAll nodes) = (child? name nodes).map Element.unplaced := by
  induction nodes with
  | nil => rfl
  | cons node rest ih =>
    cases node with
    | text content position => simp [child?, ih]
    | element tag children =>
      by_cases same : tag.name = name
      · simp [child?, same, Element.unplaced]
      · simp [child?, same, ih]

mutual

theorem textContent_unplaced : (node : Node) → node.unplaced.textContent = node.textContent
  | .text content position => by simp [textContent]
  | .element tag children => by simp [textContent, textContentAll_unplacedAll children]

theorem textContentAll_unplacedAll :
    (nodes : List Node) → textContentAll (unplacedAll nodes) = textContentAll nodes
  | [] => rfl
  | node :: rest => by
    simp [textContentAll, textContent_unplaced node, textContentAll_unplacedAll rest]

end

end Node

end MemberDocs
