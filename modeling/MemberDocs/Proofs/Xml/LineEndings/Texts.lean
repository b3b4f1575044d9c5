import MemberDocs.Proofs.Xml.LineEndings.Documents
import MemberDocs.Proofs.Xml.TextSources

/-! # Texts with unified line endings

A document in bytes is read as the text that they stand for, if it names no encoding but UTF-8
(`readBytes_of_namesUtf8`). A text and the text with its line endings unified are told by the same events
but for their places, unless one of them comes to the limit of what may be counted
(`readBytes_alike`).
-/

namespace MemberDocs.Xml

open Text (unifyChars unifyChars_cons)
open Encoding (IsUnused)

/-! ## The encoding -/

/-- The XML declaration at the front of a source, if there is one, names no encoding but UTF-8. -/
def NamesUtf8 (source : List Char) : Prop :=
  ∀ mark body rest declaration, IsMark mark →
    source = mark ++ ("<?xml".toList ++ body ++ "?>".toList ++ rest) →
      Declaration.parse body = .ok declaration → ∀ named ∈ declaration.encoding,
        (String.ofList named.1).map Char.toUpper = "UTF-8"

/-- A source that starts with other markup names no encoding. -/
theorem namesUtf8_of_other {second : Char} {rest : List Char} (other : second ≠ '?') :
    NamesUtf8 ('<' :: second :: rest) := by
  intro mark body after declaration isMark source
  rcases isMark with rfl | rfl
  · exact absurd (List.cons.inj (List.cons.inj source).2).1 other
  · cases (List.cons.inj source).1

theorem decide_of_namesUtf8 {name : List Char}
    (utf8 : (String.ofList name).map Char.toUpper = "UTF-8") : Switch.decide .utf8 name = .stay := by
  have short : (String.ofList name).length = 5 := by
    rw [← String.length_map, utf8]
    rfl
  have named : Encoding.named .utf8 (String.ofList name) = some .utf8 := by
    unfold Encoding.named
    simp [short, utf8]
  simp [Switch.decide, named]

/-- A text is read in UTF-8, after the sign that marks the order of bytes, or is too short to tell. -/
theorem exists_mark_of_startsFilled {source : List Char} (filled : StartsFilled source) :
    Encoding.detect (source.flatMap String.utf8EncodeChar) = .undecided ∨
      ∃ mark chars, IsMark mark ∧ source = mark ++ chars ∧
        Encoding.detect (source.flatMap String.utf8EncodeChar) =
          .encoding .utf8 (mark.flatMap String.utf8EncodeChar).length := by
  rcases Encoding.detect_flatMap filled with ⟨detected, -⟩ | detected | ⟨detected, marked⟩
  · exact Or.inl detected
  · exact Or.inr ⟨[], source, Or.inl rfl, rfl, detected⟩
  · obtain ⟨chars, rfl⟩ := List.head?_eq_some_iff.mp marked
    exact Or.inr ⟨['\uFEFF'], chars, Or.inr rfl, rfl, detected⟩

theorem drop_mark (mark chars : List Char) :
    ((mark ++ chars).flatMap String.utf8EncodeChar).drop
      (mark.flatMap String.utf8EncodeChar).length = chars.flatMap String.utf8EncodeChar := by
  rw [List.flatMap_append, List.drop_left]

/-- Bytes of a text that names no encoding but UTF-8 are read as the text. -/
theorem readBytes_of_namesUtf8 {source : List Char} (filled : StartsFilled source)
    (utf8 : NamesUtf8 source) :
    readBytes false (source.flatMap String.utf8EncodeChar) =
      readBytes true (source.flatMap String.utf8EncodeChar) := by
  unfold readBytes
  rcases exists_mark_of_startsFilled filled with detected | ⟨mark, chars, isMark, rfl, detected⟩
  · rw [detected]
  · rw [detected]
    dsimp only [Encoding.decode]
    rw [drop_mark]
    have decoded : ∃ more, chars =
        (Encoding.decodeUtf8 (chars.flatMap String.utf8EncodeChar)).1 ++ more := by
      rcases Encoding.decodeUtf8_flatMap chars with whole | ⟨before, c, after, _, parts, _, read⟩
      · exact ⟨[], by rw [whole, List.append_nil]⟩
      · exact ⟨c :: after, by rw [read, parts]⟩
    obtain ⟨more, parts⟩ := decoded
    generalize Encoding.decodeUtf8 (chars.flatMap String.utf8EncodeChar) = read at parts ⊢
    obtain ⟨front, ending⟩ := read
    dsimp only at parts ⊢
    split
    next => rfl
    next body rest found =>
      split
      next => rfl
      next declaration parsed =>
        split
        next => rfl
        next name left named =>
          obtain ⟨same, -⟩ := declaration_of_declarationAtFront? found
          have whole : mark ++ chars = mark ++ ("<?xml".toList ++ body ++ "?>".toList ++ (rest ++ more)) := by
            rw [parts, same]
            simp [Scan.declarationTarget]
          rw [decide_of_namesUtf8 (utf8 mark body _ declaration isMark whole parsed (name, left) named)]
          rfl

/-! ## Line endings -/

theorem declarationAtFront?_of_other {source : List Char} (other : ¬ ['<', '?'] <+: source) :
    declarationAtFront? .utf8 source = none := by
  unfold declarationAtFront?
  split
  next cs => exact absurd ⟨cs, rfl⟩ other
  next => rfl

theorem declarationAtFront?_unified (source : List Char) :
    declarationAtFront? .utf8 (unifyChars source) =
      (declarationAtFront? .utf8 source).map fun read => (unifyChars read.1, unifyChars read.2) := by
  by_cases asks : ['<', '?'] <+: source
  · obtain ⟨cs, rfl⟩ := asks
    rw [Text.unifyChars_append (by decide)]
    change declarationAtFront? .utf8 ('<' :: '?' :: unifyChars cs) =
      (declarationAtFront? .utf8 ('<' :: '?' :: cs)).map _
    rw [declarationAtFront?, declarationAtFront?]
    rcases (instruction_unified cs).outcomes with ⟨read, left, first, second⟩ | ⟨_, _, first, second⟩
    · rw [first, second]
      dsimp only
      split <;> rfl
    · rw [first, second]
      rfl
  · rw [declarationAtFront?_of_other asks, declarationAtFront?_of_other fun front =>
      asks (front_of_unifyChars (by decide) front)]
    rfl

/-- A text has the characters that stand for nothing, if it has them, with any line endings. -/
theorem exists_unused_iff (source : List Char) :
    (∃ c ∈ unifyChars source, IsUnused c) ↔ ∃ c ∈ source, IsUnused c := by
  constructor
  · rintro ⟨c, member, unused⟩
    rcases Text.mem_unifyChars member with rfl | found
    · exact absurd unused (by unfold IsUnused; decide)
    · exact ⟨c, found, unused⟩
  · rintro ⟨c, member, unused⟩
    refine ⟨c, Text.mem_unifyChars_of_mem member ?_, unused⟩
    rintro rfl
    exact absurd unused (by unfold IsUnused; decide)

theorem startsFilled_of_not_mem {source : List Char} (filled : '\x00' ∉ source) :
    StartsFilled source := by
  intro c member zero
  have null : c = '\x00' := Char.toNat_inj.mp zero
  exact filled (null ▸ List.mem_of_mem_take member)

theorem not_mem_unifyChars {source : List Char} (filled : '\x00' ∉ source) :
    '\x00' ∉ unifyChars source := by
  intro member
  rcases Text.mem_unifyChars member with same | found
  · cases same
  · exact filled found

theorem detect_of_unmarked {c : Char} {rest : List Char} (filled : '\x00' ∉ c :: rest)
    (unmarked : c ≠ '\uFEFF')
    (decided : rest = [] → Encoding.detect (String.utf8EncodeChar c) = .encoding .utf8 0) :
    Encoding.detect ((c :: rest).flatMap String.utf8EncodeChar) = .encoding .utf8 0 := by
  rcases Encoding.detect_flatMap (startsFilled_of_not_mem filled) with
    ⟨_, alone⟩ | detected | ⟨_, marked⟩
  · obtain rfl : rest = [] := by simpa using alone
    simpa using decided rfl
  · exact detected
  · exact absurd (Option.some.inj marked) unmarked

/-- A text is taken for the same encoding with its line endings unified. -/
theorem detect_unifyChars {source : List Char} (filled : '\x00' ∉ source) :
    Encoding.detect ((unifyChars source).flatMap String.utf8EncodeChar) =
      Encoding.detect (source.flatMap String.utf8EncodeChar) := by
  have filled' := not_mem_unifyChars filled
  rcases unifyChars_cases source with rfl | ⟨rest, rfl, _, same⟩ | ⟨c, rest, rfl, _, same⟩
  · rfl
  · rw [same] at filled' ⊢
    rw [detect_of_unmarked filled (by decide) fun _ => by decide,
      detect_of_unmarked filled' (by decide) fun _ => by decide]
  · rw [same] at filled' ⊢
    by_cases marked : c = '\uFEFF'
    · subst marked
      rfl
    · by_cases alone : rest = []
      · subst alone
        rfl
      · rw [detect_of_unmarked filled marked fun empty => absurd empty alone,
          detect_of_unmarked filled' marked fun empty =>
            absurd (Text.unifyChars_eq_nil_iff.mp empty) alone]

/-- Two readings of documents that tell the same but for its places, or are both refused, unless one of
them comes to the limit of what may be counted. -/
inductive ReadAlike :
    Except ParseError (List Event) → Except ParseError (List Event) → Prop where
  | read {events events' : List Event}
      (same : events'.map Event.unplaced = events.map Event.unplaced) :
      ReadAlike (.ok events) (.ok events')
  | refused (fault fault' : Fault) (place place' : Position) :
      ReadAlike (.error (.malformed fault place)) (.error (.malformed fault' place'))
  | exceedsFirst (place : Position) (second : Except ParseError (List Event)) :
      ReadAlike (.error (.malformed .amplification place)) second
  | exceedsSecond (first : Except ParseError (List Event)) (place : Position) :
      ReadAlike first (.error (.malformed .amplification place))

theorem readAlike_of_alike {first second : Except PlacedFault (List Event)}
    (alike : Alike (fun events events' => events'.map Event.unplaced = events.map Event.unplaced)
      (first.mapError Prod.fst) (second.mapError Prod.fst)) :
    ReadAlike (first.mapError .ofFault) (second.mapError .ofFault) := by
  rcases alike.outcomes with ⟨events, events', same, rfl, rfl⟩ | ⟨fault, fault', rfl, rfl⟩ |
    ⟨⟨fault, place⟩, limit, rfl⟩ | ⟨⟨fault, place⟩, limit, rfl⟩
  · exact .read same
  · exact .refused _ _ _ _
  · obtain rfl : fault = .amplification := limit
    exact .exceedsFirst place _
  · obtain rfl : fault = .amplification := limit
    exact .exceedsSecond _ place

theorem readBytes_of_unused {mark chars : List Char}
    (detected : Encoding.detect ((mark ++ chars).flatMap String.utf8EncodeChar) =
      .encoding .utf8 (mark.flatMap String.utf8EncodeChar).length)
    (unused : ∃ c ∈ chars, IsUnused c) :
    ∃ fault place, readBytes true ((mark ++ chars).flatMap String.utf8EncodeChar) =
      .error (.malformed fault place) := by
  cases read : readBytes true ((mark ++ chars).flatMap String.utf8EncodeChar) with
  | error error =>
    obtain ⟨fault, place, rfl⟩ := malformed_of_readBytes read
    exact ⟨fault, place, rfl⟩
  | ok events =>
    obtain ⟨whole, -⟩ := exists_document_of_readBytes detected rfl read
    rw [drop_mark] at whole
    obtain ⟨c, member, unused⟩ := unused
    exact absurd unused (Encoding.used_of_decodeUtf8 whole c member)

theorem decode_of_used {mark chars : List Char} (used : ¬ ∃ c ∈ chars, IsUnused c) :
    Encoding.utf8.decode (((mark ++ chars).flatMap String.utf8EncodeChar).drop
      (mark.flatMap String.utf8EncodeChar).length) = (chars, .complete) := by
  rw [drop_mark]
  exact Encoding.decodeUtf8_of_used fun c member unused => used ⟨c, member, unused⟩

theorem readBytes_alike {source : List Char} (filled : '\x00' ∉ source) :
    ReadAlike (readBytes true (source.flatMap String.utf8EncodeChar))
      (readBytes true ((unifyChars source).flatMap String.utf8EncodeChar)) := by
  have detects := detect_unifyChars filled
  rcases exists_mark_of_startsFilled (startsFilled_of_not_mem filled) with
    detected | ⟨mark, chars, isMark, rfl, detected⟩
  · rw [detected] at detects
    unfold readBytes
    rw [detects, detected]
    exact .refused _ _ _ _
  · have unified : unifyChars (mark ++ chars) = mark ++ unifyChars chars := by
      rcases isMark with rfl | rfl
      · rfl
      · exact Text.unifyChars_append (by decide) chars
    rw [detected, unified] at detects
    rw [unified]
    by_cases unused : ∃ c ∈ chars, IsUnused c
    · obtain ⟨_, _, first⟩ := readBytes_of_unused detected unused
      obtain ⟨_, _, second⟩ := readBytes_of_unused detects ((exists_unused_iff chars).mpr unused)
      rw [first, second]
      exact .refused _ _ _ _
    · have decoded := @decode_of_used mark chars unused
      have decoded' := @decode_of_used mark _ (mt (exists_unused_iff chars).mp unused)
      have context : (⟨Encoding.utf8.scheme, .complete⟩ : Context) = .utf8 := rfl
      unfold readBytes
      simp only [detected, detects, decoded, decoded', context, ↓reduceIte]
      rw [declarationAtFront?_unified]
      cases declarationAtFront? .utf8 chars with
      | none => exact readAlike_of_alike (readDocument_alike _ _ _ _ _)
      | some read =>
        obtain ⟨body, rest⟩ := read
        dsimp only [Option.map_some]
        have parses := Declaration.parse_unified body
        cases first : Declaration.parse body with
        | error left =>
          rw [first] at parses
          obtain ⟨left', second⟩ := toOption_eq_none_iff.mp parses
          rw [second]
          exact .refused _ _ _ _
        | ok declaration =>
          rw [first] at parses
          rw [toOption_eq_some_iff.mp parses]
          dsimp only [Declaration.unified]
          cases declaration.encoding with
          | none => exact readAlike_of_alike (readDocument_alike _ _ _ _ _)
          | some named => exact readAlike_of_alike (readDocument_alike _ _ _ _ _)

end MemberDocs.Xml
