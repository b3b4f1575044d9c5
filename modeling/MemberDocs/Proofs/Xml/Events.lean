import MemberDocs.Proofs.Doc.Building
import MemberDocs.Proofs.Xml.Scanned

/-! # Where elements are told

Where no entity is declared, nothing but tags is told (`eventsAfter_of_token`), and every start that is
told is that of a tag in the source, at its place (`exists_tag_of_readDocument`). A document that has
been read to its end has been read in whole (`complete_of_readDocument`).
-/

namespace MemberDocs.Xml

section Tokens

theorem start_mem_tell {reading : Reading} {position : Position} {event : Event} {tag : Tag}
    (told : .start tag ∈ (reading.tell position event).events) :
    event = .start tag ∨ .start tag ∈ reading.events := by
  unfold Reading.tell at told
  rcases List.mem_cons.mp told with same | before
  · exact Or.inl same.symm
  · right
    split at before
    · exact before
    · simpa using before

/-- The events after a token: those before it, unless it is a tag. -/
inductive EventsAfter (dtd : Dtd) (position : Position) (reading : Reading) :
    Token → List Event → Prop
  | silent (token : Token) : EventsAfter dtd position reading token reading.events
  | endTag (name trail : List Char) : EventsAfter dtd position reading (.endTag name trail)
      (reading.tell position (.finish (String.ofList name))).events
  | startTag (name trail : List Char) (attributes : List RawAttribute)
      (given : List (List Char × List Char)) :
      EventsAfter dtd position reading (.startTag name attributes trail false)
        (reading.tell position
          (.start ⟨String.ofList name, withDefaults dtd name given, position⟩)).events
  | emptyTag (name trail : List Char) (attributes : List RawAttribute)
      (given : List (List Char × List Char)) :
      EventsAfter dtd position reading (.startTag name attributes trail true)
        ((reading.tell position
          (.start ⟨String.ofList name, withDefaults dtd name given, position⟩)).tell position
            (.finish (String.ofList name))).events

variable {dtd : Dtd} (undeclared : dtd.entities = [])
  {replace : List Char → List Char → Position → Reading → Except PlacedFault Reading} {site : Site}

include undeclared

theorem eventsAfter_of_token {reading after : Reading} {position : Position} {token : Token}
    (read : reading.token dtd replace site position token = .ok after) :
    EventsAfter dtd position reading token after.events := by
  cases token with
  | text | cdata | comment =>
    obtain rfl := Except.ok.inj read
    exact .silent _
  | instruction target | character digits =>
    simp only [Reading.token] at read
    split at read
    next => cases read
    next =>
      obtain rfl := Except.ok.inj read
      exact .silent _
  | entity name =>
    simp only [Reading.token, undeclared, List.lookup_nil] at read
    split at read
    next =>
      obtain rfl := Except.ok.inj read
      exact .silent _
    next =>
      split at read
      next => cases read
      next =>
        obtain rfl := Except.ok.inj read
        exact .silent _
  | endTag name trail =>
    simp only [Reading.token] at read
    split at read
    next => cases read
    next =>
      split at read
      next => cases read
      next =>
        split at read
        next =>
          obtain rfl := Except.ok.inj read
          exact .endTag name trail
        next => cases read
  | startTag name attributes trail empty =>
    simp only [Reading.token] at read
    split at read
    next => cases read
    next given _ _ =>
      cases empty with
      | true =>
        obtain rfl := Except.ok.inj read
        exact .emptyTag name trail attributes given
      | false =>
        obtain rfl := Except.ok.inj read
        exact .startTag name trail attributes given

/-- A token tells a start only if it is a start tag, with its name and its place. -/
theorem start_mem_of_token {reading after : Reading} {position : Position} {token : Token}
    (read : reading.token dtd replace site position token = .ok after) {tag : Tag}
    (told : .start tag ∈ after.events) :
    .start tag ∈ reading.events ∨ tag.position = position ∧
      ∃ attributes trail empty, token = .startTag tag.name.toList attributes trail empty := by
  have events := eventsAfter_of_token undeclared read
  generalize after.events = later at events told
  cases events with
  | silent => exact Or.inl told
  | endTag name trail =>
    rcases start_mem_tell told with other | before
    · cases other
    · exact Or.inl before
  | startTag name trail attributes given =>
    rcases start_mem_tell told with same | before
    · cases same
      exact Or.inr ⟨rfl, attributes, trail, false, by simp⟩
    · exact Or.inl before
  | emptyTag name trail attributes given =>
    rcases start_mem_tell told with other | opened
    · cases other
    · rcases start_mem_tell opened with same | before
      · cases same
        exact Or.inr ⟨rfl, attributes, trail, true, by simp⟩
      · exact Or.inl before

theorem start_mem_of_read {reading after : Reading} {position : Position} {token : Token}
    (read : reading.read dtd replace site position token = .ok after) {tag : Tag}
    (told : .start tag ∈ after.events) :
    .start tag ∈ reading.events ∨ tag.position = position ∧
      ∃ attributes trail empty, token = .startTag tag.name.toList attributes trail empty := by
  unfold Reading.read at read
  split at read
  next => cases read
  next => exact start_mem_of_token undeclared read told

/-- What a whole sequence of tokens tells is told by its start tags. -/
theorem start_mem_of_tokens {tokens : List Placed} {reading after : Reading}
    (read : reading.tokens dtd replace site none tokens = .ok after) {tag : Tag}
    (told : .start tag ∈ after.events) :
    .start tag ∈ reading.events ∨ ∃ placed ∈ tokens, tag.position = placed.position ∧
      ∃ attributes trail empty, placed.token =
        .startTag tag.name.toList attributes trail empty := by
  induction tokens generalizing reading with
  | nil =>
    obtain rfl := Except.ok.inj read
    exact Or.inl told
  | cons placed rest ih =>
    rw [Reading.tokens] at read
    split at read
    next => cases read
    next between here =>
      rcases ih read with before | ⟨other, later, same⟩
      · rcases start_mem_of_read undeclared here before with earlier | same
        · exact Or.inl earlier
        · exact Or.inr ⟨placed, List.mem_cons_self, same⟩
      · exact Or.inr ⟨other, List.mem_cons_of_mem placed later, same⟩

end Tokens

/-! ## Documents -/

theorem complete_of_epilogFault {context : Context} {account : Account} {skip : Nat}
    {position : Position} {source : List Char}
    (faultless : epilogFault context account skip position source = none) :
    context.ending = .complete := by
  induction source generalizing account skip position with
  | nil =>
    rw [epilogFault] at faultless
    split at faultless
    next whole => exact whole
    next => cases faultless
  | cons c rest ih =>
    cases skip with
    | succ skip => exact ih (by simpa only [epilogFault] using faultless)
    | zero =>
      rw [epilogFault] at faultless
      dsimp only at faultless
      split at faultless
      next => cases faultless
      next =>
        split at faultless
        next => cases faultless
        next =>
          split at faultless <;> split at faultless
          all_goals first | exact ih faultless | cases faultless

theorem complete_of_readDocument {context : Context} {subset : Subset} {position : Position}
    {source : List Char} {events : List Event}
    (read : readDocument context subset position source = .ok events) :
    context.ending = .complete := by
  unfold readDocument readElement at read
  split at read
  next => cases read
  next =>
    dsimp only at read
    split at read
    next => cases read
    next =>
      split at read
      next => cases read
      next => cases read
      next =>
        split at read
        next => cases read
        next faultless => exact complete_of_epilogFault faultless

/-- The name of a tag stands right after its sign, at some place of a source. -/
def OpensTagAt (position : Position) (source : List Char) (tag : Tag) : Prop :=
  ∃ before next after, source = before ++ '<' :: (tag.name.toList ++ next :: after) ∧
    (isSpace next ∨ next = '/' ∨ next = '>') ∧
      tag.position = position.through before ('<' :: (tag.name.toList ++ next :: after))

/-- Without a document type declaration every element is told where its tag stands. -/
theorem exists_tag_of_readDocument {subset : Subset} (undeclared : subset.dtd.entities = [])
    {position : Position} {source : List Char} (untyped : ¬ DeclaresType source)
    {events : List Event} (read : readDocument .utf8 subset position source = .ok events)
    {tag : Tag} (told : .start tag ∈ events) : OpensTagAt position source tag := by
  unfold readDocument at read
  split at read
  next => cases read
  next declared place rest prolog =>
    have reaches := reaches_of_readProlog prolog
    have bare : declared.dtd.entities = [] := by
      rcases dtd_of_readProlog prolog with same | typed
      · rw [same, undeclared]
      · exact absurd typed untyped
    unfold readElement at read
    dsimp only at read
    split at read
    next => cases read
    next reading inside =>
      have events : events = reading.events.reverse := by
        split at read
        next => cases read
        next => cases read
        next =>
          split at read
          next => cases read
          next => exact (Except.ok.inj read).symm
      rw [events, List.mem_reverse] at told
      rcases start_mem_of_tokens bare inside told with before |
        ⟨placed, listed, same, attributes, trail, empty, isTag⟩
      · cases before
      · obtain ⟨left, _, inner, scanned⟩ := reaches_of_mem_tokensFrom listed
        rw [isTag] at scanned
        obtain ⟨next, after, rfl, ends⟩ := startTag_of_scan scanned
        obtain ⟨before, rfl, isPlace⟩ := reaches.trans inner
        exact ⟨before, next, after, rfl, ends, same.trans isPlace⟩

end MemberDocs.Xml
