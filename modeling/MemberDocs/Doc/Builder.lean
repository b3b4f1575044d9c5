import MemberDocs.Text.Blank
import MemberDocs.Xml.Event

/-! # Building a tree from events

A documentation tree is built from the events that tell a document. The data events between two tags
are one text, which has the place of the first of them; a text of blanks only is dropped. Hence no
element of a built tree has two neighbouring texts or a blank one.
-/

namespace MemberDocs

/-- An element that is open: its head and its children so far, the last first. -/
structure OpenElement where
  tag : Tag
  children : List Node := []

/-- A tree that is being built. -/
structure Builder where
  /-- The open elements, the innermost first. -/
  opened : List OpenElement := []
  /-- The data since the last tag, the last piece first. -/
  text : List String := []
  /-- The place of the first piece of data since the last tag. -/
  textPosition : Option Position := none
  /-- The document element, once it has ended. -/
  root : Option Element := none

namespace Builder

/-- Adds a part to the innermost open element; without one it is dropped. -/
def add (builder : Builder) (node : Node) : Builder :=
  match builder.opened with
  | [] => builder
  | innermost :: outer =>
    { builder with
      opened := { innermost with children := node :: innermost.children } :: outer }

def flush (builder : Builder) : Builder :=
  let content := String.join builder.text.reverse
  let position := builder.textPosition.getD {}
  let cleared := { builder with text := [], textPosition := none }
  if Text.isBlankText content then cleared else cleared.add (.text content position)

def step (builder : Builder) : Xml.Event → Builder
  | .start tag =>
    let builder := builder.flush
    { builder with opened := ⟨tag, []⟩ :: builder.opened }
  | .data content position =>
    { builder with
      text := content :: builder.text, textPosition := builder.textPosition.or (some position) }
  | .finish _ =>
    let builder := builder.flush
    match builder.opened with
    | [] => builder
    | innermost :: outer =>
      let element : Element := ⟨innermost.tag, innermost.children.reverse⟩
      let closed := { builder with opened := outer }
      if outer.isEmpty then { closed with root := some element } else closed.add element.toNode

def run (builder : Builder) (events : List Xml.Event) : Builder :=
  events.foldl step builder

end Builder

/-- The document element that events tell, if they tell one to its end. -/
def Element.ofEvents? (events : List Xml.Event) : Option Element :=
  (Builder.run {} events).root

end MemberDocs
