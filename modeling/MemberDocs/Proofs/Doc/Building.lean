import MemberDocs.Doc.Builder

/-! # What a tree is built from

The heads in a tree that is built from events are those that the events tell
(`start_mem_of_ofEvents?`).
-/

namespace MemberDocs

open Xml (Event)

/-- The head is that of the part, or of an element in it. -/
inductive Node.Holds (tag : Tag) : Node → Prop where
  | here {children : List Node} : Holds tag (.element tag children)
  | child {other : Tag} {children : List Node} {node : Node} (member : node ∈ children)
      (inside : node.Holds tag) : Holds tag (.element other children)

theorem Node.not_holds_text (tag : Tag) (content : String) (position : Position) :
    ¬ (Node.text content position).Holds tag :=
  nofun

theorem Node.holds_element_iff {tag head : Tag} {children : List Node} :
    (Node.element head children).Holds tag ↔ tag = head ∨ ∃ node ∈ children, node.Holds tag := by
  constructor
  · intro holds
    cases holds with
    | here => exact Or.inl rfl
    | child member inside => exact Or.inr ⟨_, member, inside⟩
  · intro cases
    rcases cases with rfl | ⟨node, member, inside⟩
    · exact .here
    · exact .child member inside

/-- All heads of what has been built have a property. -/
structure Builder.All (p : Tag → Prop) (builder : Builder) : Prop where
  opened : ∀ element ∈ builder.opened, p element.tag ∧
    ∀ node ∈ element.children, ∀ tag, node.Holds tag → p tag
  root : ∀ element, builder.root = some element → ∀ tag, element.toNode.Holds tag → p tag

namespace Builder

variable {p : Tag → Prop} {builder : Builder}

theorem All.add (all : builder.All p) {node : Node} (each : ∀ tag, node.Holds tag → p tag) :
    (builder.add node).All p := by
  unfold Builder.add
  split
  next => exact all
  next innermost outer opened =>
    have before := all.opened
    rw [opened, List.forall_mem_cons] at before
    refine ⟨List.forall_mem_cons.mpr ⟨⟨before.1.1, ?_⟩, before.2⟩, all.root⟩
    exact List.forall_mem_cons.mpr ⟨each, before.1.2⟩

theorem All.flush (all : builder.All p) : builder.flush.All p := by
  have cleared : { builder with text := [], textPosition := none }.All p := ⟨all.opened, all.root⟩
  unfold Builder.flush
  dsimp only
  split
  next => exact cleared
  next => exact cleared.add fun tag holds => nomatch holds

/-- The parts of an element that ends are those that it held while it was open. -/
theorem All.step (all : builder.All p) {event : Event}
    (told : ∀ tag, event = .start tag → p tag) : (builder.step event).All p := by
  cases event with
  | start tag =>
    have flushed := all.flush
    exact ⟨List.forall_mem_cons.mpr ⟨⟨told tag rfl, by simp⟩, flushed.opened⟩, flushed.root⟩
  | data content position => exact ⟨all.opened, all.root⟩
  | finish name =>
    have flushed := all.flush
    unfold Builder.step
    dsimp only
    split
    next => exact flushed
    next innermost outer opened =>
      have before := flushed.opened
      rw [opened, List.forall_mem_cons] at before
      have closed : { builder.flush with opened := outer }.All p := ⟨before.2, flushed.root⟩
      have each : ∀ tag, (Node.element innermost.tag innermost.children.reverse).Holds tag →
          p tag := by
        intro tag holds
        cases holds with
        | here => exact before.1.1
        | child member inside => exact before.1.2 _ (List.mem_reverse.mp member) tag inside
      split
      next => exact ⟨closed.opened, fun element same => Option.some.inj same ▸ each⟩
      next => exact closed.add each

theorem All.run {events : List Event} (all : builder.All p)
    (told : ∀ tag, .start tag ∈ events → p tag) : (builder.run events).All p := by
  induction events generalizing builder with
  | nil => exact all
  | cons event rest ih =>
    refine ih (all.step fun tag same => told tag (same ▸ List.mem_cons_self)) fun tag later => ?_
    exact told tag (List.mem_cons_of_mem event later)

end Builder

/-- The heads of a built tree have been told. -/
theorem start_mem_of_ofEvents? {events : List Event} {root : Element}
    (built : Element.ofEvents? events = some root) {tag : Tag} (holds : root.toNode.Holds tag) :
    .start tag ∈ events := by
  have empty : ({} : Builder).All fun tag => Event.start tag ∈ events := ⟨by simp, by simp⟩
  exact (empty.run fun _ => id).root root built tag holds

end MemberDocs
