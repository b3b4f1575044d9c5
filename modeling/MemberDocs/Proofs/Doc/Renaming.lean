import MemberDocs.Doc.Node

/-! # Trees with other heads

A tree whose heads are changed, each by itself (`Node.mapTags`), keeps its shape and its texts.
Names that are borne after the change exactly where they were before find the same elements
(`Node.child?_mapTagsAll`, `Node.filter_isNamed_mapTagsAll`). A change of this kind is that of one name
for another (`Tag.renamed`), which keeps every third name (`Tag.keepsName_renamed`).
-/

namespace MemberDocs

namespace Node

section Heads

variable (change : Tag → Tag)

mutual

/-- A part of a tree with the heads changed. -/
def mapTags : Node → Node
  | .text content position => .text content position
  | .element tag children => .element (change tag) (mapTagsAll children)

/-- Neighbouring parts with the heads changed. -/
def mapTagsAll : List Node → List Node
  | [] => []
  | node :: rest => node.mapTags :: mapTagsAll rest

end

@[simp] theorem mapTags_text (content : String) (position : Position) :
    mapTags change (.text content position) = .text content position := by
  rw [mapTags]

@[simp] theorem mapTags_element (tag : Tag) (children : List Node) :
    mapTags change (.element tag children) =
      .element (change tag) (mapTagsAll change children) := by
  rw [mapTags]

theorem mapTagsAll_eq_map (nodes : List Node) :
    mapTagsAll change nodes = nodes.map (mapTags change) := by
  induction nodes with
  | nil => rfl
  | cons node rest ih => rw [mapTagsAll, ih, List.map_cons]

theorem tag?_mapTags (node : Node) : (node.mapTags change).tag? = node.tag?.map change := by
  cases node with
  | text content position => rw [mapTags_text]; rfl
  | element tag children => rw [mapTags_element]; rfl

mutual

theorem textContent_mapTags : (node : Node) → (node.mapTags change).textContent = node.textContent
  | .text content position => by rw [mapTags_text]
  | .element tag children => by
    rw [mapTags_element, textContent, textContent, textContentAll_mapTagsAll children]

theorem textContentAll_mapTagsAll :
    (nodes : List Node) → textContentAll (mapTagsAll change nodes) = textContentAll nodes
  | [] => rfl
  | node :: rest => by
    rw [mapTagsAll, textContentAll, textContentAll, textContent_mapTags node,
      textContentAll_mapTagsAll rest]

end

end Heads

end Node

/-- The same heads bear the name before and after the change. -/
def Tag.KeepsName (change : Tag → Tag) (name : String) : Prop :=
  ∀ tag : Tag, (change tag).name = name ↔ tag.name = name

namespace Node

variable {change : Tag → Tag} {name : String} (keeps : Tag.KeepsName change name)

include keeps

theorem isNamed_mapTags (node : Node) : (node.mapTags change).isNamed name = node.isNamed name := by
  cases node with
  | text content position => rw [mapTags_text]
  | element tag children =>
    rw [mapTags_element]
    exact decide_eq_decide.mpr (keeps tag)

theorem filter_isNamed_mapTagsAll (nodes : List Node) :
    (mapTagsAll change nodes).filter (isNamed name) =
      mapTagsAll change (nodes.filter (isNamed name)) := by
  rw [mapTagsAll_eq_map, mapTagsAll_eq_map, List.filter_map]
  congr 2
  funext node
  exact isNamed_mapTags keeps node

theorem child?_mapTagsAll (nodes : List Node) :
    child? name (mapTagsAll change nodes) =
      (child? name nodes).map fun e => ⟨change e.tag, mapTagsAll change e.children⟩ := by
  induction nodes with
  | nil => rfl
  | cons node rest ih =>
    rw [mapTagsAll]
    cases node with
    | text content position => rw [mapTags_text, child?, child?, ih]
    | element tag children =>
      rw [mapTags_element, child?, child?, ih]
      by_cases named : tag.name = name
      · rw [if_pos named, if_pos ((keeps tag).mpr named)]
        rfl
      · rw [if_neg named, if_neg (mt (keeps tag).mp named)]

end Node

/-! ## One name for another -/

/-- A head that bears `new` if it bore `old`. -/
def Tag.renamed (old new : String) (tag : Tag) : Tag :=
  { tag with name := if tag.name = old then new else tag.name }

namespace Tag

section

variable (old new : String) (tag : Tag)

@[simp] theorem attribute?_renamed (key : String) :
    (tag.renamed old new).attribute? key = tag.attribute? key := rfl

@[simp] theorem attributeOrEmpty_renamed (key : String) :
    (tag.renamed old new).attributeOrEmpty key = tag.attributeOrEmpty key := rfl

@[simp] theorem position_renamed : (tag.renamed old new).position = tag.position := rfl

end

variable {old new : String} {tag : Tag}

theorem name_renamed_of_eq (named : tag.name = old) : (tag.renamed old new).name = new :=
  if_pos named

theorem renamed_of_ne (other : tag.name ≠ old) : tag.renamed old new = tag := by
  rw [renamed, if_neg other]

/-- A third name is borne by the same heads. -/
theorem keepsName_renamed {name : String} (notOld : name ≠ old) (notNew : name ≠ new) :
    KeepsName (renamed old new) name := by
  intro tag
  by_cases named : tag.name = old
  · rw [name_renamed_of_eq named, named]
    exact ⟨fun same => absurd same.symm notNew, fun same => absurd same.symm notOld⟩
  · rw [renamed_of_ne named]

end Tag

end MemberDocs
