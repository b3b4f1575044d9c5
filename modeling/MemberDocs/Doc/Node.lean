/-! # Documentation trees

A documentation file is a tree of elements and texts, each with its place in the file
(`MemberDocs.Node`). The head of an element, that is its name, attributes and place, is a
`MemberDocs.Tag`; an element is a tag with its children. Trees are read by attribute
(`Tag.attribute?`), by child element (`elements`, `child?`) and by all the text below
(`Node.textContent`).
-/

namespace MemberDocs

/-- A place in a source text: line and column, each counted from 1. Both are 0 where no place is
known. -/
structure Position where
  line : Nat := 0
  column : Nat := 0
deriving DecidableEq, Repr, Inhabited

/-- Attributes in the order in which they are read; no key occurs twice. -/
abbrev Attributes := List (String × String)

namespace Attributes

/-- Sets an attribute: at its place if the key is there already, at the end otherwise. -/
def insert (key value : String) : Attributes → Attributes
  | [] => [(key, value)]
  | (k, v) :: rest => if k = key then (k, value) :: rest else (k, v) :: insert key value rest

/-- The attributes of a list of pairs; of pairs with one key the last gives the value. -/
def ofPairs (pairs : List (String × String)) : Attributes :=
  pairs.foldl (fun attributes pair => insert pair.1 pair.2 attributes) []

end Attributes

/-- The head of an element. -/
structure Tag where
  name : String
  attributes : Attributes := []
  position : Position := {}
deriving DecidableEq, Repr, Inhabited

/-- The value of an attribute. -/
def Tag.attribute? (tag : Tag) (key : String) : Option String :=
  tag.attributes.lookup key

/-- The value of an attribute, empty if the attribute is absent. -/
def Tag.attributeOrEmpty (tag : Tag) (key : String) : String :=
  (tag.attribute? key).getD ""

/-- A part of a documentation tree: character data, or an element with its parts in order. -/
inductive Node where
  | text (content : String) (position : Position)
  | element (tag : Tag) (children : List Node)
deriving Repr, Inhabited

/-- An element of a documentation tree. -/
structure Element where
  tag : Tag
  children : List Node
deriving Repr, Inhabited

/-- An element as a part of a tree. -/
def Element.toNode (e : Element) : Node :=
  .element e.tag e.children

namespace Node

/-- The part as an element, if it is one. -/
def element? : Node → Option Element
  | .text _ _ => none
  | .element tag children => some ⟨tag, children⟩

/-- The head of the part, if it is an element. -/
def tag? : Node → Option Tag
  | .text _ _ => none
  | .element tag _ => some tag

/-- The part is an element of the given name. -/
def isNamed (name : String) : Node → Bool
  | .text _ _ => false
  | .element tag _ => tag.name = name

mutual

/-- All character data of a part, in order. -/
def textContent : Node → String
  | .text content _ => content
  | .element _ children => textContentAll children

/-- All character data of several parts, in order. -/
def textContentAll : List Node → String
  | [] => ""
  | node :: rest => textContent node ++ textContentAll rest

end

/-- The child elements among some parts. -/
def elements (nodes : List Node) : List Element :=
  nodes.filterMap element?

/-- The first element of the given name among some parts. -/
def child? (name : String) : List Node → Option Element
  | [] => none
  | .text _ _ :: rest => child? name rest
  | .element tag children :: rest =>
    if tag.name = name then some ⟨tag, children⟩ else child? name rest

theorem sizeOf_nil_le (nodes : List Node) : sizeOf ([] : List Node) ≤ sizeOf nodes := by
  cases nodes with
  | nil => exact Nat.le_refl _
  | cons node rest =>
    rw [List.nil.sizeOf_spec, List.cons.sizeOf_spec]
    omega

theorem sizeOf_filter_le (p : Node → Bool) (nodes : List Node) :
    sizeOf (nodes.filter p) ≤ sizeOf nodes := by
  induction nodes with
  | nil => exact Nat.le_refl _
  | cons node rest ih =>
    by_cases kept : p node
    · rw [List.filter_cons_of_pos kept, List.cons.sizeOf_spec, List.cons.sizeOf_spec]
      omega
    · rw [List.filter_cons_of_neg kept, List.cons.sizeOf_spec]
      omega

theorem sizeOf_children_lt_of_child? {name : String} {nodes : List Node} {e : Element}
    (found : child? name nodes = some e) : sizeOf e.children < sizeOf nodes := by
  induction nodes with
  | nil => simp [child?] at found
  | cons node rest ih =>
    cases node with
    | text content position =>
      have := ih (by simpa [child?] using found)
      simp
      omega
    | element tag children =>
      simp only [child?] at found
      split at found
      · simp only [Option.some.injEq] at found
        subst found
        simp
        omega
      · have := ih found
        simp
        omega

end Node

/-- All character data below an element, in order. -/
def Element.textContent (e : Element) : String :=
  Node.textContentAll e.children

end MemberDocs
