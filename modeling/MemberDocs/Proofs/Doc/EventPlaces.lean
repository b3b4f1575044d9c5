import MemberDocs.Doc.Builder
import MemberDocs.Proofs.Doc.Placement

/-! # Events without their places

Events that differ only in their places tell trees that differ only in their places
(`ofEvents?_map_unplaced`).
-/

namespace MemberDocs

open Xml (Event)

/-- An event without its place. -/
def Xml.Event.unplaced : Event → Event
  | .start tag => .start tag.bare
  | .data content _ => .data content {}
  | .finish name => .finish name

/-- An open element without its places. -/
def OpenElement.unplaced (innermost : OpenElement) : OpenElement :=
  ⟨innermost.tag.bare, Node.unplacedAll innermost.children⟩

namespace Builder

/-- What has been built, without its places. -/
def unplaced (builder : Builder) : Builder where
  opened := builder.opened.map OpenElement.unplaced
  text := builder.text
  textPosition := builder.textPosition.map fun _ => {}
  root := builder.root.map Element.unplaced

theorem unplaced_add (builder : Builder) (node : Node) :
    (builder.add node).unplaced = builder.unplaced.add node.unplaced := by
  obtain ⟨opened, text, textPosition, root⟩ := builder
  cases opened with
  | nil => rfl
  | cons innermost outer => simp [add, unplaced, OpenElement.unplaced]

theorem unplaced_flush (builder : Builder) : builder.flush.unplaced = builder.unplaced.flush := by
  have place : (builder.unplaced.textPosition.getD {} : Position) = {} := by
    unfold unplaced
    cases builder.textPosition <;> rfl
  unfold flush
  rw [place]
  change unplaced (if Text.isBlankText (String.join builder.text.reverse) then _ else _) =
    if Text.isBlankText (String.join builder.text.reverse) then _ else _
  split
  next => rfl
  next =>
    rw [unplaced_add, Node.unplaced_text]
    rfl

theorem unplaced_step (builder : Builder) (event : Event) :
    (builder.step event).unplaced = builder.unplaced.step event.unplaced := by
  cases event with
  | start tag =>
    simp only [step, Event.unplaced]
    rw [← unplaced_flush]
    rfl
  | data content position =>
    obtain ⟨opened, text, textPosition, root⟩ := builder
    cases textPosition <;> rfl
  | finish name =>
    simp only [step, Event.unplaced]
    rw [← unplaced_flush]
    obtain ⟨opened, text, textPosition, root⟩ := builder.flush
    cases opened with
    | nil => rfl
    | cons innermost outer =>
      cases outer with
      | nil => simp [unplaced, OpenElement.unplaced, Element.unplaced, Node.unplacedAll_eq_map]
      | cons next more =>
        simp [unplaced, OpenElement.unplaced, Element.toNode, add, Node.unplacedAll_eq_map]

theorem unplaced_run (builder : Builder) (events : List Event) :
    (builder.run events).unplaced = builder.unplaced.run (events.map Event.unplaced) := by
  induction events generalizing builder with
  | nil => rfl
  | cons event rest ih =>
    change ((builder.step event).run rest).unplaced =
      (builder.unplaced.step event.unplaced).run (rest.map Event.unplaced)
    rw [ih, unplaced_step]

end Builder

/-- Events without their places tell the same element without its places. -/
theorem ofEvents?_map_unplaced (events : List Event) :
    Element.ofEvents? (events.map Event.unplaced) =
      (Element.ofEvents? events).map Element.unplaced :=
  congrArg Builder.root (Builder.unplaced_run {} events).symm

end MemberDocs
