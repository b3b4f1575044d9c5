import MemberDocs.Markdown.Conversion
import MemberDocs.Proofs.Markdown.Placement
import MemberDocs.Proofs.Xml.Encoding
import MemberDocs.Proofs.Xml.Prolog
import MemberDocs.Proofs.Xml.Reading
import Mathlib.Data.List.Chain

/-! # Reading what has been written

A document that has been written in any way is read as the element that it was written for, apart
from places, and has the Markdown of that element (`parsing_inverts_printing`).
-/

namespace MemberDocs.Xml

theorem WritesElement.exists_start {document : Element} {tokens : List Token}
    (writes : WritesElement document tokens) (rest : List Char) :
    ∃ first more, tokens.flatMap Token.lexeme ++ rest = '<' :: first :: more ∧
      Scheme.utf8.isNameStart first := by
  have tag {tag : Tag} {empty : Bool} {opening : Token} (opens : Opens tag empty opening)
      (rest : List Char) : ∃ first more, opening.lexeme ++ rest = '<' :: first :: more ∧
        Scheme.utf8.isNameStart first := by
    cases opens with
    | @intro raws trail named attributes spaces =>
      obtain ⟨first, more, name, starts⟩ := exists_cons_of_isName named
      exact ⟨first, _, by rw [lexeme_startTag, name]; rfl, starts⟩
  cases writes with
  | empty opens =>
    rw [List.flatMap_cons, List.append_assoc]
    exact tag opens _
  | full opens inside closes =>
    rw [List.flatMap_cons, List.append_assoc]
    exact tag opens _

section Written

variable {document : Element} {tokens : List Token}
  (written : Written false [document.toNode] tokens)

include written

/-- What follows the XML declaration is read as the element. -/
theorem readDocument_of_written (printable : Printable document.toNode) (apart : Apart tokens)
    {subset : Subset} (undeclared : subset.dtd.attributes = [])
    (spares : subset.account.Spares 0) (position : Position) :
    ∃ events root, readDocument .utf8 subset position (tokens.flatMap Token.lexeme) = .ok events ∧
      Element.ofEvents? events = some root ∧ root.unplaced = document.unplaced := by
  obtain ⟨prolog, element, epilog, rfl, before, writes, after⟩ := written.exists_element
  have readable : ∀ token ∈ element, token.Readable := fun token member =>
    written.readable token (by simp [member])
  obtain ⟨here, account, spared, passed⟩ := readProlog_of_fills before apart spares position
  obtain ⟨first, more, source, starts⟩ := writes.exists_start (epilog.flatMap Token.lexeme)
  have apartElement : Apart element := apart.right_of_append.left_of_append
  have apartEpilog : Apart epilog := apart.right_of_append.right_of_append
  obtain ⟨placed, place, same, cut⟩ := writes.tokensFrom readable apartElement here
    (epilog.flatMap Token.lexeme)
  obtain ⟨read, root, run, left, built, bare⟩ := @WritesElement.read subset.dtd
    (replaceInContent subset.dtd (subset.dtd.entities.length + 1) []) undeclared document element
    writes printable placed same account spared
  have noFault := epilogFault_of_fills after apartEpilog left place
  have prologRead : readProlog .utf8 .prolog subset 0 position
      ((prolog ++ (element ++ epilog)).flatMap Token.lexeme) =
        .ok ({ subset with account }, here,
          element.flatMap Token.lexeme ++ epilog.flatMap Token.lexeme) := by
    rw [passed, List.flatMap_append, source]
    exact readProlog_element starts here more
  refine ⟨read.events.reverse, root, ?_, built, bare⟩
  rw [readDocument, prologRead]
  simp only [readElement, cut]
  have tokensRead : readTokens subset.dtd .utf8 account placed = .ok read := run
  simp only [Context.utf8_scheme, tokensRead, noFault]

/-- Without an XML declaration none is read. -/
theorem declarationAtFront?_of_written :
    declarationAtFront? .utf8 (tokens.flatMap Token.lexeme) = none := by
  obtain ⟨prolog, element, epilog, rfl, before, writes, -⟩ := written.exists_element
  cases prolog with
  | nil =>
    obtain ⟨first, more, source, starts⟩ := writes.exists_start (epilog.flatMap Token.lexeme)
    rw [List.nil_append, List.flatMap_append, source]
    exact declarationAtFront?_element starts more
  | cons token others =>
    rw [List.cons_append, List.flatMap_cons]
    exact declarationAtFront?_lexeme (before token List.mem_cons_self) _

/-- A document starts with the sign of a tag or with white space. -/
theorem exists_start_of_written :
    ∃ first second rest, tokens.flatMap Token.lexeme = first :: second :: rest ∧
      (first = '<' ∨ isSpace first) := by
  obtain ⟨prolog, element, epilog, rfl, before, writes, -⟩ := written.exists_element
  obtain ⟨name, more, source, -⟩ := writes.exists_start (epilog.flatMap Token.lexeme)
  rw [List.flatMap_append, List.flatMap_append, source]
  cases prolog with
  | nil => exact ⟨_, _, _, rfl, Or.inl rfl⟩
  | cons token others =>
    have fills := before token List.mem_cons_self
    obtain ⟨first, rest, lexeme⟩ := List.exists_cons_of_ne_nil fills.readable.filled
    have opens := fills.first lexeme
    rw [List.flatMap_cons, lexeme]
    cases remaining : rest ++ others.flatMap Token.lexeme with
    | nil => exact ⟨first, '<', name :: more, by simp [remaining], opens⟩
    | cons second later =>
      exact ⟨first, second, later ++ '<' :: name :: more, by simp [remaining], opens⟩

end Written

theorem OpensDocument.isLegal {opening : List Char} (opens : OpensDocument opening) :
    IsLegal opening := by
  cases opens with
  | nothing => exact isLegal_nil
  | declaration legal parted closed parsed =>
    have front : IsLegal ('<' :: '?' :: Scan.declarationTarget) := by decide
    have back : IsLegal ['?', '>'] := by decide
    exact isLegal_append.mpr ⟨isLegal_append.mpr ⟨front, legal⟩, back⟩

theorem Prints.isLegal {document : Element} {source : String} (prints : Prints document source) :
    IsLegal source.toList := by
  obtain ⟨opening, tokens, opens, written, -, same⟩ := prints
  rw [same, isLegal_append, isLegal_flatMap]
  exact ⟨opens.isLegal, fun token listed => (written.readable token listed).legal⟩

theorem Prints.detect {document : Element} {source : String} (prints : Prints document source) :
    Encoding.detect (Text.encodeUtf8 source) = .encoding .utf8 0 := by
  have legal := prints.isLegal
  have starts : ∃ first second rest, source.toList = first :: second :: rest ∧
      (first = '<' ∨ isSpace first) := by
    obtain ⟨opening, tokens, opens, written, -, same⟩ := prints
    rw [same]
    cases opens with
    | nothing => exact exists_start_of_written written
    | declaration => exact ⟨_, _, _, rfl, Or.inl rfl⟩
  obtain ⟨first, second, rest, same, opens⟩ := starts
  have ascii : first.toNat < 128 := by
    rcases opens with rfl | space
    · decide
    · rcases isSpace_iff.mp space with rfl | rfl | rfl | rfl <;> decide
  exact Encoding.detect_encodeUtf8 same ascii
    ⟨legal first (by simp [same]), legal second (by simp [same])⟩

/-- The events of a document are those of its element. -/
theorem readBytes_of_prints {document : Element} {source : String}
    (printable : Printable document.toNode) (prints : Prints document source) :
    ∃ events root, readBytes true (Text.encodeUtf8 source) = .ok events ∧
      Element.ofEvents? events = some root ∧ root.unplaced = document.unplaced := by
  have decoded := Encoding.decodeUtf8_encodeUtf8 prints.isLegal
  have detected := prints.detect
  obtain ⟨opening, tokens, opens, written, apart, same⟩ := prints
  rw [same] at decoded
  cases opens with
  | nothing =>
    have front : declarationAtFront? ⟨Encoding.utf8.scheme, .complete⟩
        (tokens.flatMap Token.lexeme) = none := declarationAtFront?_of_written written
    obtain ⟨events, root, read, ended, bare⟩ := @readDocument_of_written _ _ written printable apart
      { account := { direct := 0 } } rfl (Nat.le_refl 0) .start
    refine ⟨events, root, ?_, ended, bare⟩
    rw [List.nil_append] at decoded
    unfold readBytes
    simp only [detected, List.drop_zero, Encoding.decode, decoded, front, ↓reduceIte]
    exact congrArg (Except.mapError ParseError.ofFault) read
  | @declaration body declared legal parted closed parsed =>
    have front : declarationAtFront? ⟨Encoding.utf8.scheme, .complete⟩
        ('<' :: '?' :: (Scan.declarationTarget ++ body ++ ['?', '>']) ++
          tokens.flatMap Token.lexeme) = some (body, tokens.flatMap Token.lexeme) :=
      declarationAtFront?_declaration legal parted closed _
    obtain ⟨events, root, read, ended, bare⟩ := @readDocument_of_written _ _ written printable apart
      { dtd := { standalone := declared.standalone },
        account := { direct := 0 + ("<?xml".toList ++ body ++ ['?', '>']).length * 1 } }
      rfl (Nat.zero_le _) (Position.start.after ("<?xml".toList ++ body ++ ['?', '>']))
    refine ⟨events, root, ?_, ended, bare⟩
    unfold readBytes
    simp only [detected, List.drop_zero, Encoding.decode, decoded, front, parsed, ↓reduceIte]
    -- Whatever encoding is declared, the text is read on as it is.
    cases declared.encoding <;> exact congrArg (Except.mapError ParseError.ofFault) read

/-- **Parsing inverts printing.** However a tree is written, it is read back apart from its places;
hence its layout never changes the Markdown. -/
theorem parsing_inverts_printing {document : Element} {source : String}
    (printable : Printable document.toNode) (prints : Prints document source) :
    (∃ root, parseText source = .ok root ∧ root.unplaced = document.unplaced) ∧
      (Markdown.convertText source).toOption =
        (Markdown.renderMarkdown Markdown.standardRules none document.toNode).toOption := by
  obtain ⟨events, root, read, ended, bare⟩ := readBytes_of_prints printable prints
  have parsed : parseText source = .ok root := by
    rw [parseText, read]
    simp only [elementOfEvents, ended]
  have same : root.toNode.unplaced = document.toNode.unplaced := by
    rw [← Element.toNode_unplaced, bare, Element.toNode_unplaced]
  refine ⟨⟨root, parsed, bare⟩, ?_⟩
  rw [← Markdown.toOption_renderMarkdown_congr same, Markdown.convertText, parsed]
  exact toOption_mapError _ _

/-- A document with a text that cannot stand as it is. -/
def remarksDocument : Element :=
  ⟨{ name := "remarks" }, [
    .element { name := "c", attributes := [("lang", "a\tb")] } [.text "x < <y>z" {}],
    .element { name := "para" } []]⟩

/-- A layout of `remarksDocument` in which the text is cut and the gaps are filled. -/
def remarksSource : String :=
  "<?xml version='1.0'?>\n<!-- layout --><remarks>\n  <c lang = 'a&#9;b'>x &lt; <!-- cut -->" ++
    "<![CDATA[<y>]]>&#122;<?keep?></c >\n\t<para/></remarks>\n"

theorem printable_remarksDocument : Printable remarksDocument.toNode := by
  have text : Printable (.text "x < <y>z" {}) := .text (by decide) (by decide)
  have inline : Printable (.element { name := "c", attributes := [("lang", "a\tb")] }
      [.text "x < <y>z" {}]) :=
    .element ⟨by decide, by decide, by decide, by decide⟩ (by simpa using text) (by decide)
  have para : Printable (.element { name := "para" } []) :=
    .element ⟨by decide, by decide, by decide, by decide⟩ (by simp) (by decide)
  exact .element ⟨by decide, by decide, by decide, by decide⟩
    (by simpa [remarksDocument] using ⟨inline, para⟩) (by decide)

theorem prints_remarksSource : Prints remarksDocument remarksSource := by
  have declaration : OpensDocument "<?xml version='1.0'?>".toList :=
    @OpensDocument.declaration " version='1.0'".toList {} (by decide) (by decide) (by decide)
      (by decide)
  have front : FillsGap false [.text "\n".toList, .comment " layout ".toList] := by
    refine ⟨List.forall_mem_cons.mpr ⟨.space (by decide) (by decide), ?_⟩, by simp⟩
    exact List.forall_mem_singleton.mpr (.aside (.comment ⟨by decide, by decide⟩))
  have space {source : List Char} (filled : source ≠ []) (spaces : IsSpaces source) :
      FillsGap false [.text source] :=
    ⟨List.forall_mem_singleton.mpr (.space filled spaces), by simp⟩
  have noGap (afterText : Bool) : FillsGap afterText [] := ⟨by simp, by simp⟩
  have pieces : List.Forall₂ Spells
      [.text "x ".toList, .entity "lt".toList, .text " ".toList, .comment " cut ".toList,
        .cdata "<y>".toList, .character "122".toList, .instruction "keep".toList []]
      ["x ".toList, ['<'], " ".toList, [], "<y>".toList, ['z'], []] :=
    .cons (.plain ⟨by decide, by decide, by decide, by decide⟩ (by decide)) <|
    .cons (.reference (.entity (by decide))) <|
    .cons (.plain ⟨by decide, by decide, by decide, by decide⟩ (by decide)) <|
    .cons (.aside (.comment ⟨by decide, by decide⟩)) <|
    .cons (.cdata ⟨by decide, by decide⟩ (by decide)) <|
    .cons (.reference (.number (by decide) (by decide))) <|
    .cons (.aside (.instruction ⟨by decide, by decide, by decide, by decide, by decide⟩)) .nil
  have value : WritesValue '\'' "a&#9;b".toList "a\tb".toList :=
    .plain (by decide) (by decide) (by decide) (by decide) <|
    @WritesValue.reference _ (.character ['9']) '\t' _ _ (.number (by decide) (by decide)) <|
    .plain (by decide) (by decide) (by decide) (by decide) .nil
  have lang : WritesAttribute ⟨[' '], "lang".toList, " = ".toList, '\'', "a&#9;b".toList⟩
      ("lang", "a\tb") :=
    ⟨by decide, by decide, ⟨[' '], [' '], by decide⟩, by decide, value⟩
  have opens : Opens remarksDocument.tag false (.startTag "remarks".toList [] [] false) :=
    .intro (by decide) .nil (by decide)
  have closes : Closes remarksDocument.tag (.endTag "remarks".toList []) :=
    .intro (by decide) (by decide)
  have para : Written false [.element { name := "para" } []]
      ([.text "\n\t".toList] ++ .startTag "para".toList [] [] true :: []) :=
    .empty (space (by decide) (by decide)) (.intro (by decide) .nil (by decide)) (.nil (noGap _))
  have children : Written false remarksDocument.children _ :=
    .element (@space "\n  ".toList (by decide) (by decide))
      (@Opens.intro _ _ _ [] (by decide) (.cons lang .nil) (by decide))
      (.text pieces (by decide) (.nil (noGap _))) (@Closes.intro _ [' '] (by decide) (by decide))
      para
  have document : Written false [remarksDocument.toNode] _ :=
    .element front opens children closes (.nil (@space ['\n'] (by decide) (by decide)))
  exact ⟨_, _, declaration, document, by unfold Apart; decide, by decide +kernel⟩

theorem remarksSource_is_read_back :
    (∃ root, parseText remarksSource = .ok root ∧ root.unplaced = remarksDocument.unplaced) ∧
      (Markdown.convertText remarksSource).toOption =
        (Markdown.renderMarkdown Markdown.standardRules none remarksDocument.toNode).toOption :=
  parsing_inverts_printing printable_remarksDocument prints_remarksSource

end MemberDocs.Xml
