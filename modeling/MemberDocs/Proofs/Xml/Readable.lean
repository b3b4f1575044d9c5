import MemberDocs.Proofs.Xml.Spelling

/-! # Tokens that are read back

A token is readable if its source holds legal characters only and is read as that very token
(`Token.Readable`). The tokens that a document is written with are: tags (`Opens.readable`,
`Closes.readable`), asides (`Aside.readable`), and what spells out a text (`Spells.readable`) or fills
a gap (`Fills.readable`).
-/

namespace MemberDocs.Xml

/-! ## Legal characters -/

theorem isDocumentChar_of_bounds {c : Char} (low : 32 ≤ c.toNat) (high : c.toNat < 0xFFFE) :
    isDocumentChar c := by
  rw [isDocumentChar, if_neg (by omega)]
  simp only [Bool.and_eq_true, decide_eq_true_eq]
  omega

theorem isDocumentChar_of_isSpace {c : Char} (space : isSpace c) : isDocumentChar c := by
  unfold isDocumentChar
  split
  next => exact space
  next => rcases isSpace_iff.mp space with rfl | rfl | rfl | rfl <;> decide

theorem IsSpaces.isLegal {source : List Char} (spaces : IsSpaces source) : IsLegal source :=
  fun c member => isDocumentChar_of_isSpace (spaces c member)

theorem bounds_of_inRanges {ranges : List (Nat × Nat)}
    (bounded : ∀ range ∈ ranges, 32 ≤ range.1 ∧ range.2 < 0xFFFE) {n : Nat}
    (among : Text.inRanges ranges n) : 32 ≤ n ∧ n < 0xFFFE := by
  obtain ⟨range, listed, inside⟩ := List.any_eq_true.mp among
  have bounds := bounded range listed
  simp only [Bool.and_eq_true, decide_eq_true_eq] at inside
  omega

theorem isDocumentChar_of_isNameChar {c : Char} (named : Scheme.utf8.isNameChar c) :
    isDocumentChar c := by
  have letters : ∀ range ∈ letterRanges, 32 ≤ range.1 ∧ range.2 < 0xFFFE := by decide +kernel
  have marks : ∀ range ∈ markRanges, 32 ≤ range.1 ∧ range.2 < 0xFFFE := by
    decide +kernel
  suffices bounds : 32 ≤ c.toNat ∧ c.toNat < 0xFFFE from
    isDocumentChar_of_bounds bounds.1 bounds.2
  by_cases ascii : c.toNat < 128
  · have control : ∀ n < 32, Scheme.utf8.isNameChar (Char.ofNat n) = false := by decide
    by_contra outside
    have least := control c.toNat (by omega)
    rw [Char.ofNat_toNat, named] at least
    cases least
  · simp only [Scheme.isNameChar, Scheme.isNameStart, ascii, ↓reduceIte, Scheme.hasLetterSigns,
      Bool.false_and, Bool.or_false, Bool.or_eq_true] at named
    exact named.elim (bounds_of_inRanges letters) (bounds_of_inRanges marks)

theorem isLegal_of_isName {name : List Char} (named : isName name) : IsLegal name := by
  cases name with
  | nil => cases named
  | cons first rest =>
    simp only [isName, Bool.and_eq_true, List.all_eq_true] at named
    refine isLegal_cons.mpr ⟨?_, fun c later => isDocumentChar_of_isNameChar (named.2 c later)⟩
    exact isDocumentChar_of_isNameChar (by simp [Scheme.isNameChar, named.1])

theorem isLegal_of_isNumber {digits : List Char} (written : isNumber digits) :
    IsLegal digits := by
  have bounds {c low high : Char} (between : low ≤ c ∧ c ≤ high) (least : 32 ≤ low.toNat)
      (most : high.toNat < 128) : isDocumentChar c := by
    have first : low.toNat ≤ c.toNat := between.1
    have second : c.toNat ≤ high.toNat := between.2
    exact isDocumentChar_of_bounds (by omega) (by omega)
  have decimal {c : Char} (digit : isAsciiDigit c) : isDocumentChar c := by
    simp only [isAsciiDigit, Bool.and_eq_true, decide_eq_true_eq] at digit
    exact bounds digit (by decide) (by decide)
  have hexadecimal {c : Char} (digit : Scan.isHexDigit c) : isDocumentChar c := by
    simp only [Scan.isHexDigit, Bool.or_eq_true, Bool.and_eq_true, decide_eq_true_eq] at digit
    rcases digit with (digit | between) | between
    · exact decimal digit
    · exact bounds between (by decide) (by decide)
    · exact bounds between (by decide) (by decide)
  unfold isNumber at written
  split at written
  next hex =>
    simp only [Bool.and_eq_true, List.all_eq_true] at written
    exact isLegal_cons.mpr ⟨by decide, fun c later => hexadecimal (written.2 c later)⟩
  next =>
    simp only [Bool.and_eq_true, List.all_eq_true] at written
    exact fun c member => decimal (written.2 c member)

theorem Refers.isLegal {token : Token} {c : Char} (refers : Refers token c) :
    IsLegal token.lexeme := by
  have signs : isDocumentChar '&' ∧ isDocumentChar '#' ∧ isDocumentChar ';' := by decide
  cases refers with
  | @number digits _ written means =>
    change IsLegal ('&' :: '#' :: digits ++ [';'])
    simp [signs, isLegal_of_isNumber written]
  | @entity name _ means =>
    change IsLegal ('&' :: name ++ [';'])
    simp [signs, isLegal_of_isName (isName_of_predefinedEntity? means)]

theorem WritesValue.isLegal {quote : Char} {source value : List Char}
    (writes : WritesValue quote source value) : IsLegal source := by
  induction writes with
  | nil => exact isLegal_nil
  | plain legal _ _ _ _ ih => exact isLegal_cons.mpr ⟨legal, ih⟩
  | reference refers _ ih => exact isLegal_append.mpr ⟨refers.isLegal, ih⟩

theorem WritesAttribute.isLegal {a : RawAttribute} {pair : String × String}
    (writes : WritesAttribute a pair) : IsLegal a.lexeme := by
  obtain ⟨before, after, middle, first, second⟩ := writes.middle
  have sign : isDocumentChar '=' := by decide
  have quote : isDocumentChar a.quote := by
    rcases writes.quote with same | same <;> rw [same] <;> decide
  simp [RawAttribute.lexeme, middle, writes.lead.2.isLegal, isLegal_of_isName writes.name.2,
    first.isLegal, second.isLegal, sign, quote, writes.value.isLegal]

/-! ## Readable tokens -/

def Token.isText : Token → Bool
  | .text _ => true
  | _ => false

/-- The source goes on with markup or with a reference. -/
def StartsMarkup (source : List Char) : Prop :=
  ∃ c rest, source = c :: rest ∧ (c = '<' ∨ c = '&')

/-- The source of the token is legal, and is read as the token in front of any rest; character data
has to be followed by markup. -/
structure Token.Readable (token : Token) : Prop where
  filled : token.lexeme ≠ []
  legal : IsLegal token.lexeme
  scan : ∀ rest, (token.isText → StartsMarkup rest) →
    Token.scan .utf8 (token.lexeme ++ rest) = .ok (token, rest)

/-! ## Tags -/

/-- How the start tag of an element is written, or the one tag of an empty element. -/
inductive Opens (tag : Tag) (empty : Bool) : Token → Prop where
  | intro {raws : List RawAttribute} {trail : List Char} (named : isName tag.name.toList)
      (attributes : List.Forall₂ WritesAttribute raws tag.attributes)
      (spaces : IsSpaces trail) :
      Opens tag empty (.startTag tag.name.toList raws trail empty)

/-- How the end tag of an element is written. -/
inductive Closes (tag : Tag) : Token → Prop where
  | intro {trail : List Char} (named : isName tag.name.toList) (spaces : IsSpaces trail) :
      Closes tag (.endTag tag.name.toList trail)

theorem RawAttribute.lexeme_ne_nil (a : RawAttribute) : a.lexeme ≠ [] := by
  simp [RawAttribute.lexeme]

theorem length_le_length_flatMap_lexeme (raws : List RawAttribute) :
    raws.length ≤ (raws.flatMap RawAttribute.lexeme).length := by
  induction raws with
  | nil => exact Nat.le_refl _
  | cons a rest ih =>
    have filled := List.length_pos_iff.mpr a.lexeme_ne_nil
    rw [List.flatMap_cons, List.length_append, List.length_cons]
    omega

theorem token_scan_of_isNameStart {first : Char} (starts : Scheme.utf8.isNameStart first)
    (rest : List Char) :
    Token.scan .utf8 ('<' :: first :: rest) =
      (Scan.startTag .utf8 (first :: rest)).mapError Stop.snag := by
  have plain : first ≠ '!' ∧ first ≠ '?' ∧ first ≠ '/' := by
    refine ⟨?_, ?_, ?_⟩ <;> rintro rfl <;> exact absurd starts (by decide)
  rw [Token.scan.eq_def]
  simp only
  split <;> simp_all

theorem lexeme_startTag (name : List Char) (raws : List RawAttribute) (trail : List Char)
    (empty : Bool) : (Token.startTag name raws trail empty).lexeme =
      '<' :: name ++ raws.flatMap RawAttribute.lexeme ++ trail ++ tagClose empty := rfl

theorem lexeme_endTag (name trail : List Char) :
    (Token.endTag name trail).lexeme = '<' :: '/' :: name ++ trail ++ ['>'] := rfl

theorem isLegal_tagClose (empty : Bool) : IsLegal (tagClose empty) := by
  cases empty <;> decide

theorem Opens.readable {tag : Tag} {empty : Bool} {token : Token} (opens : Opens tag empty token) :
    token.Readable := by
  cases opens with
  | @intro raws trail named attributes spaces =>
    have lexeme : (Token.startTag tag.name.toList raws trail empty).lexeme =
        '<' :: (tag.name.toList ++ (raws.flatMap RawAttribute.lexeme ++ (trail ++
          tagClose empty))) := by
      rw [lexeme_startTag]
      simp
    refine ⟨by simp [lexeme], ?_, fun rest _ => ?_⟩
    · have sign : isDocumentChar '<' := by decide
      have raw : IsLegal (raws.flatMap RawAttribute.lexeme) := isLegal_flatMap.mpr fun a listed =>
        (exists_of_mem_forall₂ attributes listed).elim fun _ writes => writes.isLegal
      simp [lexeme, sign, isLegal_of_isName named, raw, spaces.isLegal, isLegal_tagClose]
    · have close : ∀ c ∈ (tagClose empty ++ rest).head?, Scheme.utf8.isNameChar c = false := by
        have signs : Scheme.utf8.isNameChar '>' = false ∧ Scheme.utf8.isNameChar '/' = false := by
          decide
        cases empty <;> simp [tagClose, signs]
      -- What follows the name is white space before an attribute, or after the last one.
      have stops : ∀ c ∈ (raws.flatMap RawAttribute.lexeme ++ (trail ++ (tagClose empty ++
          rest))).head?, Scheme.utf8.isNameChar c = false := by
        cases raws with
        | nil => simpa using stops_of_spaces spaces close
        | cons a more =>
          obtain ⟨pair, writes⟩ := exists_of_mem_forall₂ attributes List.mem_cons_self
          obtain ⟨first, others, lead⟩ := List.exists_cons_of_ne_nil writes.lead.1
          have space := writes.lead.2 first (lead ▸ List.mem_cons_self)
          simpa [RawAttribute.lexeme, lead] using isNameChar_of_isSpace space
      have scannedName := scan_name named stops
      have enough : raws.length < (raws.flatMap RawAttribute.lexeme ++ (trail ++ (tagClose empty ++
          rest))).length + 1 := by
        have atMost := length_le_length_flatMap_lexeme raws
        rw [List.length_append]
        omega
      have scanned := scan_attributes attributes spaces empty true rest enough
      obtain ⟨first, more, name, starts⟩ := exists_cons_of_isName named
      rw [List.append_assoc, List.append_assoc] at scanned
      simp only [lexeme, List.cons_append, List.append_assoc]
      rw [name, List.cons_append] at scannedName ⊢
      rw [token_scan_of_isNameStart starts, Scan.startTag, scannedName]
      simp only [scanned, Except.mapError]

theorem Closes.readable {tag : Tag} {token : Token} (closes : Closes tag token) :
    token.Readable := by
  cases closes with
  | @intro trail named spaces =>
    have lexeme : (Token.endTag tag.name.toList trail).lexeme =
        '<' :: '/' :: (tag.name.toList ++ (trail ++ ['>'])) := by
      rw [lexeme_endTag]
      simp
    refine ⟨by simp [lexeme], ?_, fun rest _ => ?_⟩
    · have signs : isDocumentChar '<' ∧ isDocumentChar '/' ∧ isDocumentChar '>' := by decide
      simp [lexeme, signs, isLegal_of_isName named, spaces.isLegal]
    · have sign : Scheme.utf8.isNameChar '>' = false ∧ isSpace '>' = false := by decide
      have name := @scan_name _ (trail ++ '>' :: rest) named
        (stops_of_spaces spaces (by simpa using sign.1))
      have trailing := @span_append _ isSpace trail ('>' :: rest) spaces (by simpa using sign.2)
      simp only [lexeme, List.cons_append, List.append_assoc, List.nil_append, Token.scan]
      rw [Scan.endTag, name]
      simp only [Scan.spaces, trailing, Except.mapError]

/-! ## Asides -/

/-- The text of a comment: no two hyphens in it, and none at its end. -/
def IsCommentBody (body : List Char) : Prop :=
  IsLegal body ∧ ¬ ['-', '-'] <:+: body ++ ['-']

/-- The target of a processing instruction and what follows it, after white space if anything does. -/
structure IsInstruction (target body : List Char) : Prop where
  named : isName target
  unreserved : target.map Char.toLower ≠ Scan.declarationTarget
  legal : IsLegal body
  parted : body.head?.all isSpace
  closed : ¬ ['?', '>'] <:+: body

theorem IsInstruction.ne_declarationTarget {target body : List Char}
    (written : IsInstruction target body) : target ≠ Scan.declarationTarget := by
  rintro rfl
  exact written.unreserved (by decide)

/-- A token that adds nothing to what is said. -/
inductive Aside : Token → Prop where
  | comment {body : List Char} (written : IsCommentBody body) : Aside (.comment body)
  | instruction {target body : List Char} (written : IsInstruction target body) :
      Aside (.instruction target body)

theorem scan_commentBody {context : Context} {body : List Char} (written : IsCommentBody body)
    (rest : List Char) :
    Scan.commentBody context (body ++ '-' :: '-' :: '>' :: rest) = .ok (body, rest) := by
  induction body with
  | nil => simp [Scan.commentBody]
  | cons c more ih =>
    obtain ⟨legal, unbroken⟩ := written
    rw [List.cons_append, List.infix_cons_iff, not_or] at unbroken
    have later := ih ⟨fun d member => legal d (List.mem_cons_of_mem c member), unbroken.2⟩
    -- No hyphen follows a hyphen, neither in the comment nor at its end.
    have single : ∀ left, c = '-' → more ++ '-' :: '-' :: '>' :: rest = '-' :: left → False := by
      rintro left rfl next
      refine unbroken.1 ?_
      cases more with
      | nil => exact List.prefix_rfl
      | cons d others =>
        obtain rfl : d = '-' := (List.cons.inj next).1
        exact ⟨others ++ ['-'], rfl⟩
    rw [List.cons_append, Scan.commentBody.eq_def]
    split
    next => contradiction
    next same =>
      obtain ⟨first, next⟩ := List.cons.inj same
      exact (single _ first next).elim
    next same =>
      obtain ⟨first, next⟩ := List.cons.inj same
      exact (single _ first next).elim
    next same =>
      obtain ⟨first, next⟩ := List.cons.inj same
      exact (single _ first next).elim
    next first others _ _ _ same =>
      obtain ⟨rfl, rfl⟩ := List.cons.inj same
      simp only [legal c List.mem_cons_self, ↓reduceIte, later]

theorem scan_instructionBody {body : List Char} (legal : IsLegal body)
    (closed : ¬ ['?', '>'] <:+: body) (rest : List Char) :
    Scan.instructionBody .utf8 (body ++ '?' :: '>' :: rest) = .ok (body, rest) := by
  induction body with
  | nil => simp [Scan.instructionBody]
  | cons c more ih =>
    rw [List.infix_cons_iff, not_or] at closed
    have later := ih (fun d member => legal d (List.mem_cons_of_mem c member)) closed.2
    rw [List.cons_append, Scan.instructionBody.eq_def]
    split
    next => contradiction
    next same =>
      obtain ⟨rfl, next⟩ := List.cons.inj same
      cases more with
      | nil => simp at next
      | cons d others =>
        obtain rfl : d = '>' := (List.cons.inj next).1
        exact (closed.1 ⟨others, rfl⟩).elim
    next first others _ same =>
      obtain ⟨rfl, rfl⟩ := List.cons.inj same
      simp only [legal c List.mem_cons_self, ↓reduceIte, later]

/-- A processing instruction, or an XML declaration. -/
theorem scan_instruction {target body : List Char} (named : isName target)
    (unreserved : Scan.isReservedTarget target = false) (legal : IsLegal body)
    (parted : body.head?.all isSpace) (closed : ¬ ['?', '>'] <:+: body) (rest : List Char) :
    Scan.instruction .utf8 (target ++ body ++ '?' :: '>' :: rest) = .ok ((target, body), rest) := by
  have mark : Scheme.utf8.isNameChar '?' = false ∧ isSpace '?' = false := by decide
  cases body with
  | nil =>
    have name := @scan_name _ ('?' :: '>' :: rest) named (by simpa using mark.1)
    rw [List.append_nil, Scan.instruction, name]
    simp [mark.2, unreserved]
  | cons c more =>
    have space : isSpace c := parted
    rw [List.infix_cons_iff, not_or] at closed
    have name := @scan_name _ (c :: (more ++ '?' :: '>' :: rest)) named
      (by simpa using isNameChar_of_isSpace space)
    have read := scan_instructionBody (fun d member => legal d (List.mem_cons_of_mem c member))
      closed.2 rest
    rw [List.append_assoc, List.cons_append, Scan.instruction, name]
    simp only [space, unreserved, read, ↓reduceIte, Bool.false_eq_true]

theorem IsInstruction.scan {target body : List Char} (written : IsInstruction target body)
    (rest : List Char) :
    Scan.instruction .utf8 (target ++ body ++ '?' :: '>' :: rest) = .ok ((target, body), rest) := by
  have unreserved : Scan.isReservedTarget target = false := by
    simp [Scan.isReservedTarget, written.unreserved]
  exact scan_instruction written.named unreserved written.legal written.parted written.closed rest

theorem lexeme_comment (body : List Char) :
    (Token.comment body).lexeme = '<' :: '!' :: '-' :: '-' :: body ++ ['-', '-', '>'] := rfl

theorem lexeme_instruction (target body : List Char) :
    (Token.instruction target body).lexeme = '<' :: '?' :: target ++ body ++ ['?', '>'] := rfl

theorem Aside.readable {token : Token} (aside : Aside token) : token.Readable := by
  have signs : isDocumentChar '<' ∧ isDocumentChar '!' ∧ isDocumentChar '-' ∧ isDocumentChar '>' ∧
      isDocumentChar '?' := by
    decide
  cases aside with
  | @comment body written =>
    refine ⟨by simp [lexeme_comment], ?_, fun rest _ => ?_⟩
    · simp [lexeme_comment, signs, written.1]
    · rw [lexeme_comment]
      simp only [List.cons_append, List.append_assoc, List.nil_append, Token.scan, Scan.comment,
        scan_commentBody written rest]
  | @instruction target body written =>
    refine ⟨by simp [lexeme_instruction], ?_, fun rest _ => ?_⟩
    · simp [lexeme_instruction, signs, isLegal_of_isName written.named, written.legal]
    · have scanned := written.scan rest
      rw [List.append_assoc] at scanned
      rw [lexeme_instruction]
      simp only [List.cons_append, List.append_assoc, List.nil_append, Token.scan, scanned]

/-! ## Texts and gaps -/

/-- Character data that stands as it is. -/
structure IsPlain (source : List Char) : Prop where
  filled : source ≠ []
  legal : IsLegal source
  unmarked : '<' ∉ source ∧ '&' ∉ source
  closed : ¬ [']', ']', '>'] <:+: source

/-- What stands in a CDATA section. -/
structure IsSection (source : List Char) : Prop where
  legal : IsLegal source
  closed : ¬ [']', ']', '>'] <:+: source

/-- How some characters of a text are spelled out: as they stand, as a reference, in a CDATA section,
or, if they are none, by an aside. A carriage return is written as a reference. -/
inductive Spells : Token → List Char → Prop where
  | plain {source : List Char} (plain : IsPlain source) (returns : '\r' ∉ source) :
      Spells (.text source) source
  | reference {token : Token} {c : Char} (refers : Refers token c) : Spells token [c]
  | cdata {source : List Char} (written : IsSection source) (returns : '\r' ∉ source) :
      Spells (.cdata source) source
  | aside {token : Token} (aside : Aside token) : Spells token []

/-- How a gap between tags that holds no text is filled: with white space and asides. -/
inductive Fills : Token → Prop where
  | space {source : List Char} (filled : source ≠ []) (spaces : IsSpaces source) :
      Fills (.text source)
  | aside {token : Token} (aside : Aside token) : Fills token

theorem textRun_append {source rest : List Char} (legal : IsLegal source)
    (unmarked : '<' ∉ source ∧ '&' ∉ source) (closed : ¬ [']', ']', '>'] <:+: source)
    (markup : StartsMarkup rest) : textRun .utf8 (source ++ rest) = .ok (source, rest) := by
  obtain ⟨sign, after, rfl, marks⟩ := markup
  induction source with
  | nil => rcases marks with rfl | rfl <;> simp [textRun]
  | cons c more ih =>
    rw [List.infix_cons_iff, not_or] at closed
    have later := ih (fun d member => legal d (List.mem_cons_of_mem c member))
      ⟨fun member => unmarked.1 (List.mem_cons_of_mem c member),
        fun member => unmarked.2 (List.mem_cons_of_mem c member)⟩ closed.2
    have notMarkup : c ≠ '<' ∧ c ≠ '&' := by
      constructor <;> rintro rfl <;> simp at unmarked
    rw [List.cons_append, textRun.eq_def]
    split
    next => contradiction
    next left same =>
      -- The sign that closes a section would stand in the text itself.
      obtain ⟨rfl, next⟩ := List.cons.inj same
      refine (closed.1 ?_).elim
      match more, next with
      | [], next => rcases marks with rfl | rfl <;> simp at next
      | [_], next => rcases marks with rfl | rfl <;> simp at next
      | d :: e :: others, next =>
        simp only [List.cons_append, List.cons.injEq] at next
        obtain ⟨rfl, rfl, -⟩ := next
        exact ⟨others, rfl⟩
    next first others _ same =>
      obtain ⟨rfl, rfl⟩ := List.cons.inj same
      have longer : more ++ sign :: after ≠ [] := by simp
      simp [notMarkup.1, notMarkup.2, longer, legal c List.mem_cons_self, later]

theorem scan_cdataBody {source : List Char} (written : IsSection source) (rest : List Char) :
    cdataBody .utf8 (source ++ ']' :: ']' :: '>' :: rest) = .ok (source, rest) := by
  obtain ⟨legal, closed⟩ := written
  induction source with
  | nil => simp [cdataBody]
  | cons c more ih =>
    rw [List.infix_cons_iff, not_or] at closed
    have later := ih (fun d member => legal d (List.mem_cons_of_mem c member)) closed.2
    rw [List.cons_append, cdataBody.eq_def]
    split
    next => contradiction
    next left same =>
      obtain ⟨rfl, next⟩ := List.cons.inj same
      refine (closed.1 ?_).elim
      match more, next with
      | [], next => simp at next
      | [_], next => simp at next
      | d :: e :: others, next =>
        simp only [List.cons_append, List.cons.injEq] at next
        obtain ⟨rfl, rfl, -⟩ := next
        exact ⟨others, rfl⟩
    next first others _ same =>
      obtain ⟨rfl, rfl⟩ := List.cons.inj same
      have longer : more ++ ']' :: ']' :: '>' :: rest ≠ [] ∧
          more ++ ']' :: ']' :: '>' :: rest ≠ [']'] := by
        refine ⟨by simp, fun short => ?_⟩
        have lengths := congrArg List.length short
        simp at lengths
        omega
      simp [longer.1, longer.2, legal c List.mem_cons_self, later]

theorem lexeme_cdata (source : List Char) :
    (Token.cdata source).lexeme = '<' :: '!' :: '[' :: 'C' :: 'D' :: 'A' :: 'T' :: 'A' :: '[' ::
      source ++ [']', ']', '>'] := rfl

theorem IsSection.readable {source : List Char} (written : IsSection source) :
    (Token.cdata source).Readable := by
  refine ⟨by simp [lexeme_cdata], ?_, fun rest _ => ?_⟩
  · have opening : IsLegal ['<', '!', '[', 'C', 'D', 'A', 'T', 'A', '['] := by decide
    have closing : IsLegal [']', ']', '>'] := by decide
    exact isLegal_append.mpr ⟨isLegal_append.mpr ⟨opening, written.legal⟩, closing⟩
  · have mark : cdataMark = ['C', 'D', 'A', 'T', 'A', '['] := by decide
    have body := scan_cdataBody written rest
    rw [lexeme_cdata]
    simp only [List.cons_append, List.append_assoc, List.nil_append, Token.scan]
    unfold cdataSection
    have long : ¬ source.length + (rest.length + 1 + 1 + 1) + 1 + 1 + 1 + 1 + 1 + 1 < 6 := by omega
    simp [mark, body, long]

theorem IsPlain.readable {source : List Char} (plain : IsPlain source) :
    (Token.text source).Readable := by
  refine ⟨plain.filled, plain.legal, fun rest follows => ?_⟩
  have run := textRun_append plain.legal plain.unmarked plain.closed (follows rfl)
  obtain ⟨c, more, rfl⟩ := List.exists_cons_of_ne_nil plain.filled
  have notMarkup : c ≠ '<' ∧ c ≠ '&' := by
    constructor <;> rintro rfl <;> simpa using plain.unmarked
  have lexeme : (Token.text (c :: more)).lexeme = c :: more := rfl
  rw [lexeme, List.cons_append, Token.scan.eq_def]
  split
  next same => exact (notMarkup.1 (List.cons.inj same).1).elim
  next same => exact (notMarkup.2 (List.cons.inj same).1).elim
  next => simp only [← List.cons_append, run]

theorem Refers.readable {token : Token} {c : Char} (refers : Refers token c) : token.Readable := by
  obtain ⟨source, lexeme, scan⟩ := refers.scan
  refine ⟨by simp [lexeme], refers.isLegal, fun rest _ => ?_⟩
  rw [lexeme, List.cons_append, Token.scan, scan]
  rfl

theorem Spells.readable {token : Token} {chars : List Char} (spells : Spells token chars) :
    token.Readable := by
  cases spells with
  | plain plain returns => exact plain.readable
  | reference refers => exact refers.readable
  | cdata written returns => exact written.readable
  | aside aside => exact aside.readable

theorem Fills.first {token : Token} (fills : Fills token) {first : Char} {rest : List Char}
    (lexeme : token.lexeme = first :: rest) : first = '<' ∨ isSpace first := by
  cases fills with
  | @space source filled spaces =>
    have same : source = first :: rest := lexeme
    exact Or.inr (spaces first (same ▸ List.mem_cons_self))
  | aside aside =>
    left
    cases aside with
    | comment written =>
      rw [lexeme_comment] at lexeme
      exact (List.cons.inj lexeme).1.symm
    | instruction written =>
      rw [lexeme_instruction] at lexeme
      exact (List.cons.inj lexeme).1.symm

theorem Fills.readable {token : Token} (fills : Fills token) : token.Readable := by
  cases fills with
  | aside aside => exact aside.readable
  | @space source filled spaces =>
    have unspaced : isSpace '<' = false ∧ isSpace '&' = false ∧ isSpace ']' = false := by decide
    have absent {c : Char} (other : isSpace c = false) : c ∉ source := fun member => by
      simp [spaces c member] at other
    exact IsPlain.readable ⟨filled, spaces.isLegal, ⟨absent unspaced.1, absent unspaced.2.1⟩,
      fun inside => absent unspaced.2.2 (inside.subset List.mem_cons_self)⟩

end MemberDocs.Xml
