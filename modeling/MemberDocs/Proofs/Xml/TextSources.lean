import MemberDocs.Proofs.Xml.Encoding
import MemberDocs.Proofs.Xml.Events

/-! # Documents in texts

A text is read as its own characters, unless one of the first two is zero: then its bytes are taken
for pairs. What is read is the document after the sign that marks the order of bytes and after an XML
declaration, if they are there (`exists_document_of_readBytes`). So without a document type declaration
every element of a text is told where its tag stands in the text (`opensTagAt_of_readBytes`).
-/

namespace MemberDocs.Xml

/-- None of the first two characters is zero. -/
def StartsFilled (source : List Char) : Prop :=
  ∀ c ∈ source.take 2, c.toNat ≠ 0

/-- The sign that marks the order of bytes, or nothing. -/
def IsMark (mark : List Char) : Prop :=
  mark = [] ∨ mark = ['\uFEFF']

/-- A document type declaration stands in front of the document element: after the mark and an XML
declaration, with nothing between but white space, comments and processing instructions. -/
def HasDoctype (source : List Char) : Prop :=
  ∃ mark opening rest, IsMark mark ∧ OpensDocument opening ∧ DeclaresType rest ∧
    source = mark ++ (opening ++ rest)

/-- A text that is not a document is malformed. -/
theorem malformed_of_readBytes {bytes : List UInt8} {error : ParseError}
    (refused : readBytes true bytes = .error error) :
    ∃ fault place, error = .malformed fault place := by
  have document {result : Except PlacedFault (List Event)}
      (failed : result.mapError .ofFault = .error error) :
      ∃ fault place, error = .malformed fault place := by
    obtain ⟨⟨fault, place⟩, -, rfl⟩ := mapError_eq_error_iff.mp failed
    exact ⟨fault, place, rfl⟩
  unfold readBytes at refused
  split at refused
  next =>
    cases refused
    exact ⟨_, _, rfl⟩
  next =>
    dsimp only at refused
    split at refused
    next => exact document refused
    next =>
      split at refused
      next =>
        cases refused
        exact ⟨_, _, rfl⟩
      next =>
        split at refused
        next => exact document refused
        next => exact document refused

/-- What is read of bytes in UTF-8 that are not to be read in any other encoding. -/
theorem exists_document_of_readBytes {bytes : List UInt8} {mark : Nat}
    (detected : Encoding.detect bytes = .encoding .utf8 mark) {source : List Char} {ending : Ending}
    (decoded : Encoding.decodeUtf8 (bytes.drop mark) = (source, ending)) {events : List Event}
    (read : readBytes true bytes = .ok events) :
    ending = .complete ∧ ∃ opening rest subset, source = opening ++ rest ∧ OpensDocument opening ∧
      subset.dtd.entities = [] ∧
        readDocument .utf8 subset
          ((if mark = 0 then Position.start else ⟨1, 2⟩).through opening rest) rest = .ok events := by
  have chars : Encoding.utf8.decode (bytes.drop mark) = (source, ending) := decoded
  unfold readBytes at read
  simp only [detected, chars, ↓reduceIte] at read
  generalize (if mark = 0 then Position.start else ⟨1, 2⟩) = position at *
  split at read
  next =>
    have document := mapError_eq_ok_iff.mp read
    obtain rfl : ending = .complete := complete_of_readDocument document
    exact ⟨rfl, [], source, { account := { direct := mark } }, rfl, .nothing, rfl, document⟩
  next body rest found =>
    split at read
    next => cases read
    next declaration parsed =>
      generalize counted : ({ direct := _ } : Account) = account at read
      -- Whatever encoding is declared, the text is read on as it is.
      have document : readDocument ⟨Encoding.utf8.scheme, ending⟩
          { dtd := { standalone := declaration.standalone }, account }
          (position.after ("<?xml".toList ++ body ++ ['?', '>'])) rest = .ok events := by
        split at read <;> exact mapError_eq_ok_iff.mp read
      obtain rfl : ending = .complete := complete_of_readDocument document
      obtain ⟨same, legal, parted, closed⟩ := declaration_of_declarationAtFront? found
      refine ⟨rfl, _, rest,
        { dtd := { standalone := declaration.standalone }, account }, same,
        .declaration legal parted closed parsed, rfl, ?_⟩
      have lexeme : "<?xml".toList ++ body ++ ['?', '>'] =
          '<' :: '?' :: (Scan.declarationTarget ++ body ++ ['?', '>']) := rfl
      rw [lexeme] at document
      have ends : ('<' :: '?' :: (Scan.declarationTarget ++ body ++ ['?', '>'])).getLast? ≠
          some '\r' := by
        rw [← lexeme, List.getLast?_append_of_ne_nil _ (by simp)]
        decide
      rwa [← Position.after_eq_through _ ends]

/-- Without a document type declaration, every element of a text is told where its tag stands. -/
theorem opensTagAt_of_readBytes {source : String} (filled : StartsFilled source.toList)
    (untyped : ¬ HasDoctype source.toList) {events : List Event}
    (read : readBytes true (Text.encodeUtf8 source) = .ok events) {tag : Tag}
    (told : .start tag ∈ events) : OpensTagAt .start source.toList tag := by
  unfold Text.encodeUtf8 at read
  generalize source.toList = chars at *
  -- The characters after the mark, and the place of the first of them.
  have after {mark rest : List Char} (isMark : IsMark mark) (same : chars = mark ++ rest) {skip : Nat}
      (place : (if skip = 0 then Position.start else ⟨1, 2⟩) = Position.start.through mark rest)
      (detected : Encoding.detect (chars.flatMap String.utf8EncodeChar) = .encoding .utf8 skip)
      (bytes : (chars.flatMap String.utf8EncodeChar).drop skip =
        rest.flatMap String.utf8EncodeChar) : OpensTagAt .start chars tag := by
    subst same
    rcases Encoding.decodeUtf8_flatMap rest with decoded | ⟨_, _, _, _, -, -, decoded⟩
    · rw [← bytes] at decoded
      obtain ⟨-, opening, more, subset, rfl, opens, undeclared, document⟩ :=
        exists_document_of_readBytes detected decoded read
      have bare : ¬ DeclaresType more := fun declares =>
        untyped ⟨mark, opening, more, isMark, opens, declares, rfl⟩
      obtain ⟨before, next, left, rfl, ends, here⟩ :=
        exists_tag_of_readDocument undeclared bare document told
      refine ⟨mark ++ (opening ++ before), next, left, by simp, ends, ?_⟩
      rw [here, place, Position.through_append, Position.through_append]
      simp
    · rw [← bytes] at decoded
      obtain ⟨whole, -⟩ := exists_document_of_readBytes detected decoded read
      cases whole
  rcases Encoding.detect_flatMap filled with ⟨detected, -⟩ | detected | ⟨detected, marked⟩
  · unfold readBytes at read
    simp only [detected] at read
    cases read
  · exact after (Or.inl rfl) rfl rfl detected rfl
  · obtain ⟨rest, rfl⟩ : ∃ rest, chars = '\uFEFF' :: rest := by
      cases chars with
      | nil => cases marked
      | cons c rest => exact ⟨rest, by simpa using marked⟩
    exact after (Or.inr rfl) rfl rfl detected rfl

end MemberDocs.Xml
