import MemberDocs.Xml.Document
import Mathlib.Data.List.SplitBy

/-! # Texts that are told in pieces

The data between two tags is one text, however it is cut into pieces. So a tree that is told, its
texts in any pieces, is built with neighbouring texts joined, each at the place of its first piece,
and without blank ones (`building_joins_texts`). No other trees are built at all: whatever events
tell it, a built tree has neither neighbouring texts nor a blank one (`isTidy_of_ofEvents?`).
-/

namespace MemberDocs

open Xml (Event)

namespace Node

/-! ## Trees as they are told -/

def isText : Node → Bool
  | .text _ _ => true
  | .element _ _ => false

def place : Node → Position
  | .text _ position => position
  | .element tag _ => tag.position

mutual

/-- The events that tell a part of a tree. A text is one piece of data. -/
def events : Node → List Event
  | .text content position => [.data content position]
  | .element tag children => .start tag :: (eventsAll children ++ [.finish tag.name])

/-- The events that tell neighbouring parts. -/
def eventsAll : List Node → List Event
  | [] => []
  | node :: rest => node.events ++ eventsAll rest

end

/-- The second parts are the first ones with each text cut into any number of pieces, which are told
anywhere and may be empty. -/
inductive Cuts : List Node → List Node → Prop
  | nil : Cuts [] []
  | text {content : String} {position : Position} {pieces rest others : List Node}
      (data : ∀ piece ∈ pieces, piece.isText) (whole : textContentAll pieces = content)
      (later : Cuts rest others) : Cuts (.text content position :: rest) (pieces ++ others)
  | element {tag : Tag} {children parts rest others : List Node} (inside : Cuts children parts)
      (later : Cuts rest others) :
      Cuts (.element tag children :: rest) (.element tag parts :: others)

/-! ## Joined texts -/

/-- Texts as one text, at the place of the first of them; a blank one is left out. -/
def joinedText (texts : List Node) : List Node :=
  if Text.isBlankText (textContentAll texts) then []
  else [.text (textContentAll texts) ((texts.head?.map place).getD {})]

/-- Neighbouring parts with every maximal run of texts as one text. -/
def joinTexts (nodes : List Node) : List Node :=
  (nodes.splitBy fun node next => node.isText && next.isText).flatMap fun run =>
    if run.all isText then joinedText run else run

mutual

/-- A part of a tree with the texts in it joined. -/
def joined : Node → Node
  | .text content position => .text content position
  | .element tag children => .element tag (joinTexts (joinedAll children))

/-- Neighbouring parts, each with the texts in it joined. -/
def joinedAll : List Node → List Node
  | [] => []
  | node :: rest => node.joined :: joinedAll rest

end

mutual

/-- A part of a tree with the texts in it at no place. -/
def unplacedTexts : Node → Node
  | .text content _ => .text content {}
  | .element tag children => .element tag (unplacedTextsAll children)

/-- Neighbouring parts with the texts in them at no place. -/
def unplacedTextsAll : List Node → List Node
  | [] => []
  | node :: rest => node.unplacedTexts :: unplacedTextsAll rest

end

variable {nodes pieces texts others : List Node}

/-- Texts alone are one run. -/
theorem joinTexts_of_isText (data : ∀ node ∈ texts, node.isText) :
    joinTexts texts = joinedText texts := by
  cases texts with
  | nil => rfl
  | cons node others =>
    have chain : (node :: others).IsChain fun node next => node.isText && next.isText :=
      (List.pairwise_of_forall_mem_list fun a first b second => by
        rw [data a first, data b second]
        rfl).isChain
    rw [joinTexts, List.splitBy_of_isChain (List.cons_ne_nil node others) chain]
    simp only [List.flatMap_cons, List.flatMap_nil, List.append_nil,
      if_pos (List.all_eq_true.mpr data)]

/-- An element ends the run of texts before it. -/
theorem joinTexts_append_element (data : ∀ node ∈ texts, node.isText) (tag : Tag)
    (children rest : List Node) :
    joinTexts (texts ++ .element tag children :: rest) =
      joinedText texts ++ .element tag children :: joinTexts rest := by
  let both (node next : Node) : Bool := node.isText && next.isText
  have before : ∀ node ∈ texts.getLast?, both node (.element tag children) = false :=
    fun node _ => Bool.and_false node.isText
  have after : ∀ node ∈ [Node.element tag children].getLast?, ∀ next ∈ rest.head?,
      both node next = false := by
    intro node last next _
    obtain rfl : Node.element tag children = node := by simpa using last
    rfl
  have parted : (texts ++ .element tag children :: rest).splitBy both =
      texts.splitBy both ++ ([.element tag children] :: rest.splitBy both) := by
    rw [List.splitBy_append_cons rest before, ← List.singleton_append, List.splitBy_append after]
    rfl
  rw [← joinTexts_of_isText data, joinTexts, parted, List.flatMap_append, List.flatMap_cons]
  rfl

/-! ## Texts in pieces -/

theorem textContentAll_append (first second : List Node) :
    textContentAll (first ++ second) = textContentAll first ++ textContentAll second := by
  induction first with
  | nil => rw [textContentAll, List.nil_append, String.empty_append]
  | cons node rest ih =>
    rw [List.cons_append, textContentAll, textContentAll, ih, String.append_assoc]

theorem joinedAll_append_of_isText (data : ∀ node ∈ texts, node.isText) (rest : List Node) :
    joinedAll (texts ++ rest) = texts ++ joinedAll rest := by
  induction texts with
  | nil => rfl
  | cons node others ih =>
    obtain ⟨first, later⟩ := List.forall_mem_cons.mp data
    cases node with
    | text content position => rw [List.cons_append, joinedAll, joined, ih later, List.cons_append]
    | element tag children => cases first

theorem unplacedTextsAll_append (first second : List Node) :
    unplacedTextsAll (first ++ second) = unplacedTextsAll first ++ unplacedTextsAll second := by
  induction first with
  | nil => rfl
  | cons node rest ih => rw [List.cons_append, unplacedTextsAll, unplacedTextsAll, ih]; rfl

/-- Texts are joined alike up to their places if they are the same one after the other. -/
theorem unplacedTextsAll_joinedText (same : textContentAll texts = textContentAll others) :
    unplacedTextsAll (joinedText texts) = unplacedTextsAll (joinedText others) := by
  rw [joinedText, joinedText, same]
  split
  next => rfl
  next => simp [unplacedTextsAll, unplacedTexts]

/-- Pieces are joined to the texts that they are pieces of, up to the places. -/
theorem Cuts.unplacedTextsAll_joinTexts (cut : Cuts nodes pieces)
    (data : ∀ node ∈ texts, node.isText) (dataOthers : ∀ node ∈ others, node.isText)
    (same : textContentAll texts = textContentAll others) :
    unplacedTextsAll (joinTexts (texts ++ joinedAll nodes)) =
      unplacedTextsAll (joinTexts (others ++ joinedAll pieces)) := by
  induction cut generalizing texts others with
  | nil =>
    rw [joinedAll, List.append_nil, List.append_nil, joinTexts_of_isText data,
      joinTexts_of_isText dataOthers]
    exact unplacedTextsAll_joinedText same
  | @text content position pieces rest later dataPieces whole _ ih =>
    rw [joinedAll, joined, joinedAll_append_of_isText dataPieces, List.append_cons,
      ← List.append_assoc]
    refine ih (List.forall_mem_append.mpr ⟨data, List.forall_mem_singleton.mpr rfl⟩)
      (List.forall_mem_append.mpr ⟨dataOthers, dataPieces⟩) ?_
    rw [textContentAll_append, textContentAll_append, same, whole, textContentAll, textContent,
      textContentAll, String.append_empty]
  | @element tag children parts rest later _ _ ihInside ihLater =>
    have none : ∀ node ∈ ([] : List Node), node.isText := by simp
    have inside := ihInside none none rfl
    have after := ihLater none none rfl
    rw [List.nil_append, List.nil_append] at inside after
    rw [joinedAll, joinedAll, joined, joined, joinTexts_append_element data,
      joinTexts_append_element dataOthers, unplacedTextsAll_append, unplacedTextsAll_append,
      unplacedTextsAll, unplacedTextsAll, unplacedTexts, unplacedTexts, inside, after,
      unplacedTextsAll_joinedText same]

/-! ## Tidy trees -/

/-- No element in the part has neighbouring texts or a blank text. -/
inductive IsTidy : Node → Prop
  | text (content : String) (position : Position) : IsTidy (.text content position)
  | element {tag : Tag} {children : List Node}
      (apart : children.IsChain fun node next => ¬ (node.isText ∧ next.isText))
      (shown : ∀ content position, .text content position ∈ children →
        Text.isBlankText content = false)
      (inside : ∀ child ∈ children, child.IsTidy) : IsTidy (.element tag children)

/-- An element goes on to be tidy with another part, unless that is a text after a text, or a blank
one. -/
theorem IsTidy.concat {tag : Tag} {children : List Node} {node : Node}
    (tidy : (Node.element tag children).IsTidy) (added : node.IsTidy)
    (apart : ∀ last ∈ children.getLast?, ¬ (last.isText ∧ node.isText))
    (shown : ∀ content position, node = .text content position →
      Text.isBlankText content = false) :
    (Node.element tag (children ++ [node])).IsTidy := by
  cases tidy with
  | element apartBefore shownBefore inside =>
    refine .element ?_ ?_ (List.forall_mem_append.mpr ⟨inside, List.forall_mem_singleton.mpr added⟩)
    · refine List.isChain_append.mpr ⟨apartBefore, List.isChain_singleton node, ?_⟩
      intro last isLast next isNext
      obtain rfl : node = next := by simpa using isNext
      exact apart last isLast
    · intro content position among
      rcases List.mem_append.mp among with before | here
      · exact shownBefore content position before
      · exact shown content position (List.mem_singleton.mp here).symm

end Node

namespace Builder

open Node (events eventsAll joined joinedAll joinedText joinTexts)

/-! ## Building joins texts -/

/-- A builder in an open element with some parts, when some texts have been told since the last
tag. -/
def within (tag : Tag) (parts texts : List Node) (outer : List OpenElement)
    (root : Option Element) : Builder where
  opened := ⟨tag, parts.reverse⟩ :: outer
  text := (texts.map Node.textContent).reverse
  textPosition := texts.head?.map Node.place
  root := root

variable {tag : Tag} {parts texts : List Node} {outer : List OpenElement} {root : Option Element}

theorem run_append (builder : Builder) (first second : List Event) :
    builder.run (first ++ second) = (builder.run first).run second :=
  List.foldl_append

theorem run_cons (builder : Builder) (event : Event) (rest : List Event) :
    builder.run (event :: rest) = (builder.step event).run rest :=
  rfl

theorem step_data_within (content : String) (position : Position) :
    (within tag parts texts outer root).step (.data content position) =
      within tag parts (texts ++ [.text content position]) outer root := by
  cases texts <;> simp [within, step, Node.textContent, Node.place]

theorem flush_within :
    (within tag parts texts outer root).flush =
      within tag (parts ++ joinedText texts) [] outer root := by
  have content : String.join (texts.map Node.textContent) = Node.textContentAll texts := by
    induction texts with
    | nil => rfl
    | cons node rest ih => rw [List.map_cons, String.join_cons, ih, Node.textContentAll]
  simp only [flush, within, joinedText, List.reverse_reverse, content]
  split <;> simp [add]

theorem step_start_within (inner : Tag) :
    (within tag parts texts outer root).step (.start inner) =
      within inner [] [] (⟨tag, (parts ++ joinedText texts).reverse⟩ :: outer) root := by
  rw [step, flush_within]
  rfl

/-- An element that ends becomes a part of the one that it is in. -/
theorem step_finish_of_flush {builder : Builder} {inner : Tag} {children : List Node}
    (flushed : builder.flush = within inner children [] (⟨tag, parts.reverse⟩ :: outer) root)
    (name : String) :
    builder.step (.finish name) =
      within tag (parts ++ [.element inner children]) [] outer root := by
  rw [step, flushed]
  simp [within, add, Element.toNode]

/-- The document element is what has been built when it ends. -/
theorem step_finish_of_outermost {builder : Builder} {children : List Node}
    (flushed : builder.flush = within tag children [] [] root) (name : String) :
    builder.step (.finish name) = { root := some ⟨tag, children⟩ } := by
  rw [step, flushed]
  simp [within]

/-- What is told in an open element becomes part of it, with the texts before it and in it
joined. -/
theorem flush_run_eventsAll (tag : Tag) (parts : List Node) (outer : List OpenElement)
    (root : Option Element) {texts : List Node} (data : ∀ node ∈ texts, node.isText)
    (nodes : List Node) :
    ((within tag parts texts outer root).run (eventsAll nodes)).flush =
      within tag (parts ++ joinTexts (texts ++ joinedAll nodes)) [] outer root := by
  match nodes with
  | [] =>
    rw [joinedAll, List.append_nil, Node.joinTexts_of_isText data]
    exact flush_within
  | .text content position :: rest =>
    have more : ∀ node ∈ texts ++ [.text content position], node.isText :=
      List.forall_mem_append.mpr ⟨data, List.forall_mem_singleton.mpr rfl⟩
    have later := flush_run_eventsAll tag parts outer root more rest
    rw [List.append_assoc, ← step_data_within] at later
    exact later
  | .element inner children :: rest =>
    have none : ∀ node ∈ ([] : List Node), node.isText := by simp
    have inside := flush_run_eventsAll inner []
      (⟨tag, (parts ++ joinedText texts).reverse⟩ :: outer) root none children
    have later := flush_run_eventsAll tag (parts ++ joinedText texts ++
      [.element inner (joinTexts (joinedAll children))]) outer root none rest
    rw [List.nil_append, List.nil_append, ← step_start_within] at inside
    rw [List.nil_append, ← step_finish_of_flush inside inner.name] at later
    rw [eventsAll, events, List.cons_append, run_cons, List.append_assoc, run_append, joinedAll,
      joined, Node.joinTexts_append_element data]
    exact later.trans (by simp)
termination_by sizeOf nodes

/-! ## Only tidy trees are built -/

/-- What has been built is tidy, and so are the elements that are still open. -/
structure Tidy (builder : Builder) : Prop where
  opened : ∀ element ∈ builder.opened,
    (Node.element element.tag element.children.reverse).IsTidy
  root : ∀ element, builder.root = some element → element.toNode.IsTidy

/-- What has been built is tidy, and a text can follow in the innermost open element: the last part
of that is none. -/
structure Awaits (builder : Builder) : Prop extends builder.Tidy where
  ready : ∀ innermost ∈ builder.opened.head?, ∀ last ∈ innermost.children.head?,
    last.isText = false

theorem Awaits.flush {builder : Builder} (awaits : builder.Awaits) : builder.flush.Tidy := by
  have cleared : Tidy { builder with text := [], textPosition := none } :=
    ⟨awaits.opened, awaits.root⟩
  unfold Builder.flush
  dsimp only
  split
  next => exact cleared
  next shown =>
    unfold add
    split
    next => exact cleared
    next innermost others opened =>
      have before : ∀ element ∈ innermost :: others,
          (Node.element element.tag element.children.reverse).IsTidy := opened ▸ awaits.opened
      have ready := awaits.ready innermost (by rw [show builder.opened = _ from opened]; rfl)
      obtain ⟨first, later⟩ := List.forall_mem_cons.mp before
      refine ⟨List.forall_mem_cons.mpr ⟨?_, later⟩, awaits.root⟩
      rw [List.reverse_cons]
      refine first.concat (.text _ _) ?_ ?_
      · intro last isLast texts
        rw [List.getLast?_reverse] at isLast
        rw [ready last isLast] at texts
        cases texts.1
      · rintro content position same
        obtain rfl := (Node.text.inj same).1
        simpa using shown

theorem Awaits.step {builder : Builder} (awaits : builder.Awaits) (event : Event) :
    (builder.step event).Awaits := by
  cases event with
  | start tag =>
    have flushed := awaits.flush
    refine ⟨⟨List.forall_mem_cons.mpr ⟨?_, flushed.opened⟩, flushed.root⟩, by simp [Builder.step]⟩
    exact .element .nil (by simp) (by simp)
  | data content position => exact ⟨⟨awaits.opened, awaits.root⟩, awaits.ready⟩
  | finish name =>
    have flushed := awaits.flush
    unfold Builder.step
    dsimp only
    split
    next nothing => exact ⟨flushed, by simp [nothing]⟩
    next innermost outer opened =>
      have before := flushed.opened
      rw [opened] at before
      obtain ⟨first, later⟩ := List.forall_mem_cons.mp before
      cases outer with
      | nil => exact ⟨⟨by simp, fun element same => Option.some.inj same ▸ first⟩, by simp⟩
      | cons next others =>
        obtain ⟨above, rest⟩ := List.forall_mem_cons.mp later
        refine ⟨⟨List.forall_mem_cons.mpr ⟨?_, rest⟩, flushed.root⟩, ?_⟩
        · rw [List.reverse_cons]
          exact above.concat first (fun _ _ texts => nomatch texts.2) nofun
        · simp [add, Element.toNode, Node.isText]

theorem Awaits.run {builder : Builder} (awaits : builder.Awaits) (events : List Event) :
    (builder.run events).Awaits := by
  induction events generalizing builder with
  | nil => exact awaits
  | cons event rest ih => exact ih (awaits.step event)

end Builder

/-- Whatever events tell it, a built tree is tidy. -/
theorem isTidy_of_ofEvents? {events : List Event} {root : Element}
    (built : Element.ofEvents? events = some root) : root.toNode.IsTidy :=
  (@Builder.Awaits.run {} ⟨⟨by simp, by simp⟩, by simp⟩ events).root root built

namespace Xml

theorem exists_events_of_elementOfEvents {events : Except ParseError (List Event)} {root : Element}
    (parsed : elementOfEvents events = .ok root) :
    ∃ told, Element.ofEvents? told = some root := by
  unfold elementOfEvents at parsed
  split at parsed
  next => cases parsed
  next told =>
    split at parsed
    next element built => exact ⟨told, Except.ok.inj parsed ▸ built⟩
    next => cases parsed

end Xml

open Node in
/-- However texts are told, they are joined: telling a document element, with each text in it cut
into any pieces, leaves no element open and no text untold. The element that is built is the told
one with neighbouring texts joined, each at the place of its first piece, and without blank ones; up
to these places it is the document element whose texts have not been cut. So no document that is
parsed has an element with neighbouring texts or with a blank one. -/
theorem building_joins_texts (tag : Tag) {children pieces : List Node}
    (cut : Cuts children pieces) :
    Builder.run {} (Node.element tag pieces).events =
        { root := some ⟨tag, joinTexts (joinedAll pieces)⟩ } ∧
      unplacedTextsAll (joinTexts (joinedAll pieces)) =
        unplacedTextsAll (joinTexts (joinedAll children)) ∧
      (∀ source root, Xml.parseText source = .ok root → root.toNode.IsTidy) ∧
      ∀ bytes root, Xml.parseBytes bytes = .ok root → root.toNode.IsTidy := by
  have none : ∀ node ∈ ([] : List Node), node.isText := by simp
  refine ⟨?_, (cut.unplacedTextsAll_joinTexts none none rfl).symm, fun source root parsed => ?_,
    fun bytes root parsed => ?_⟩
  · have inside := Builder.flush_run_eventsAll tag [] [] Option.none none pieces
    rw [events, Builder.run_cons, Builder.run_append]
    exact Builder.step_finish_of_outermost inside tag.name
  · obtain ⟨told, built⟩ := Xml.exists_events_of_elementOfEvents parsed
    exact isTidy_of_ofEvents? built
  · obtain ⟨told, built⟩ := Xml.exists_events_of_elementOfEvents parsed
    exact isTidy_of_ofEvents? built

def noteTag : Tag := { name := "c", position := ⟨2, 2⟩ }

/-- Parts with neighbouring texts, and with blank ones. -/
def noteParts : List Node :=
  [.text "a " {}, .text "" {}, .text "b" {}, .element noteTag [.text "\n " {}], .text "\n" {}]

/-- The same parts with their texts in pieces. -/
def notePieces : List Node :=
  [.text "a" ⟨1, 4⟩, .text " " ⟨1, 5⟩, .text "" ⟨2, 1⟩, .text "b" ⟨2, 1⟩,
    .element noteTag [.text "\n" ⟨3, 1⟩, .text " " ⟨3, 2⟩], .text "\n" ⟨4, 1⟩]

theorem note_is_built_from_pieces :
    Node.Cuts noteParts notePieces ∧
      Builder.run {} (Node.element { name := "doc" } notePieces).events =
        { root := some ⟨{ name := "doc" }, [.text "a b" ⟨1, 4⟩, .element noteTag []]⟩ } ∧
      Node.unplacedTextsAll [.text "a b" ⟨1, 4⟩, .element noteTag []] =
        Node.unplacedTextsAll (Node.joinTexts (Node.joinedAll noteParts)) := by
  have inside : Node.Cuts [.text "\n " {}] [.text "\n" ⟨3, 1⟩, .text " " ⟨3, 2⟩] :=
    @Node.Cuts.text _ _ [_, _] _ _ (by simp [Node.isText]) rfl .nil
  have cut : Node.Cuts noteParts notePieces :=
    @Node.Cuts.text _ _ [_, _] _ _ (by simp [Node.isText]) rfl <|
    @Node.Cuts.text _ _ [] _ _ (by simp) rfl <|
    @Node.Cuts.text _ _ [_, _] _ _ (by simp [Node.isText]) rfl <|
    .element inside <|
    @Node.Cuts.text _ _ [_] _ _ (by simp [Node.isText]) rfl .nil
  have joins : Node.joinTexts (Node.joinedAll notePieces) =
      [.text "a b" ⟨1, 4⟩, .element noteTag []] := rfl
  obtain ⟨built, alike, -, -⟩ := building_joins_texts { name := "doc" } cut
  rw [joins] at built alike
  exact ⟨cut, built, alike⟩

end MemberDocs
