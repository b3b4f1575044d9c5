import MemberDocs.Xml.Fault
import MemberDocs.Xml.Scheme

/-! # Tokens of content

The content of an element is a sequence of texts, references, tags, CDATA sections, comments and
processing instructions. A token keeps its spelling, so that its source can be written out again
(`Token.lexeme`); `Token.scan` reads the one at the front of a source. What stops a scan is told by
the fault and by the source that is left at its place (`Snag`).
-/

namespace MemberDocs.Xml

/-- What stopped the scan of a part of markup. -/
inductive Stop where
  /-- A character that cannot stand there, at the front of `rest`. -/
  | invalid (rest : List Char)
  /-- The source ends inside the markup. -/
  | unclosed
  /-- The source ends inside a character. -/
  | cutCharacter
deriving DecidableEq, Repr

/-- What stopped a scan: a fault, and what is left of the source at its place, or nothing where the
place is the start of the token. -/
structure Snag where
  fault : Fault
  rest : Option (List Char) := none
deriving DecidableEq, Repr

/-- A stop as a fault of the token it occurs in. -/
def Stop.snag : Stop → Snag
  | invalid rest => ⟨.invalidToken, some rest⟩
  | unclosed => ⟨.unclosedToken, none⟩
  | cutCharacter => ⟨.partialCharacter, none⟩

namespace Ending

/-- What stops a scan at the end of the characters, where any character could stand. -/
def inText : Ending → Stop
  | complete | oddByte => .unclosed
  | truncated _ => .cutCharacter
  | malformed _ _ => .invalid []

/-- What stops a scan at the end of the characters, where one of a few ASCII characters has to
stand. -/
def atMark : Ending → Stop
  | complete | oddByte => .unclosed
  | truncated _ | malformed _ _ => .invalid []

end Ending

/-- A scan gives what it has read and what is left. -/
abbrev Scan (α : Type) := Except Stop (α × List Char)

/-- An attribute as it is written: the white space before it, its name, what stands between the name
and the opening quote, the quote, and the value. -/
structure RawAttribute where
  lead : List Char
  name : List Char
  middle : List Char
  quote : Char
  value : List Char
deriving DecidableEq, Repr

def RawAttribute.lexeme (a : RawAttribute) : List Char :=
  a.lead ++ a.name ++ a.middle ++ a.quote :: a.value ++ [a.quote]

/-- A token of content. -/
inductive Token where
  /-- Character data as it stands. -/
  | text (source : List Char)
  /-- A reference to a character by its number, with the digits and the mark for hexadecimal. -/
  | character (digits : List Char)
  /-- A reference to an entity by its name. -/
  | entity (name : List Char)
  /-- A section in which nothing is markup. -/
  | cdata (source : List Char)
  /-- A start tag, or the tag of an empty element. -/
  | startTag (name : List Char) (attributes : List RawAttribute) (trail : List Char) (empty : Bool)
  /-- An end tag. -/
  | endTag (name trail : List Char)
  | comment (body : List Char)
  /-- A processing instruction, with all that follows its target. -/
  | instruction (target body : List Char)
deriving DecidableEq, Repr

def Token.lexeme : Token → List Char
  | text source => source
  | character digits => '&' :: '#' :: digits ++ [';']
  | entity name => '&' :: name ++ [';']
  | cdata source => "<![CDATA[".toList ++ source ++ "]]>".toList
  | startTag name attributes trail empty =>
    '<' :: name ++ attributes.flatMap RawAttribute.lexeme ++ trail ++
      (if empty then ['/', '>'] else ['>'])
  | endTag name trail => '<' :: '/' :: name ++ trail ++ ['>']
  | comment body => "<!--".toList ++ body ++ "-->".toList
  | instruction target body => '<' :: '?' :: target ++ body ++ ['?', '>']

namespace Scan

variable (context : Context)

/-- The white space at the front. -/
def spaces (cs : List Char) : List Char × List Char :=
  cs.span isSpace

/-- A name. -/
def name : List Char → Scan (List Char)
  | [] => .error context.ending.inText
  | c :: rest =>
    if context.scheme.isNameStart c then
      let (more, left) := rest.span context.scheme.isNameChar
      .ok (c :: more, left)
    else .error (.invalid (c :: rest))

/-- The rest of a comment, after its opening. -/
def commentBody : List Char → Scan (List Char)
  | [] => .error context.ending.inText
  | ['-', '-'] => .error context.ending.atMark
  | '-' :: '-' :: '>' :: rest => .ok ([], rest)
  | '-' :: '-' :: rest => .error (.invalid rest)
  | c :: rest =>
    if isDocumentChar c then
      match commentBody rest with
      | .ok (body, left) => .ok (c :: body, left)
      | .error stop => .error stop
    else .error (.invalid (c :: rest))

/-- A comment, after its first hyphen. -/
def comment : List Char → Scan (List Char)
  | [] => .error context.ending.atMark
  | '-' :: rest => commentBody context rest
  | rest => .error (.invalid rest)

/-- The rest of a processing instruction, after the white space that ends its target. -/
def instructionBody : List Char → Scan (List Char)
  | [] => .error context.ending.inText
  | '?' :: '>' :: rest => .ok ([], rest)
  | c :: rest =>
    if isDocumentChar c then
      match instructionBody rest with
      | .ok (body, left) => .ok (c :: body, left)
      | .error stop => .error stop
    else .error (.invalid (c :: rest))

/-- The target of an XML declaration. -/
def declarationTarget : List Char := ['x', 'm', 'l']

/-- A target that is that of an XML declaration but for the case of its letters. -/
def isReservedTarget (target : List Char) : Bool :=
  target.map Char.toLower = declarationTarget && target ≠ declarationTarget

/-- A processing instruction or an XML declaration, after its opening: target and body. -/
def instruction (cs : List Char) : Scan (List Char × List Char) :=
  match name context cs with
  | .error stop => .error stop
  | .ok (target, rest) =>
    match rest with
    | [] => .error context.ending.inText
    | c :: after =>
      if isSpace c then
        if isReservedTarget target then .error (.invalid rest)
        else
          match instructionBody context after with
          | .error stop => .error stop
          | .ok (body, left) => .ok ((target, c :: body), left)
      else if c = '?' then
        if isReservedTarget target then .error (.invalid rest)
        else
          match after with
          | [] => .error context.ending.atMark
          | '>' :: left => .ok ((target, []), left)
          | _ => .error (.invalid after)
      else .error (.invalid rest)

/-- The digits of a number, after the first, and the semicolon. -/
def moreDigits (isDigit : Char → Bool) (cs : List Char) : Scan (List Char) :=
  match cs.span isDigit with
  | (_, []) => .error context.ending.atMark
  | (digits, ';' :: left) => .ok (digits, left)
  | (_, rest) => .error (.invalid rest)

/-- A hexadecimal digit. -/
def isHexDigit (c : Char) : Bool :=
  isAsciiDigit c || ('a' ≤ c && c ≤ 'f') || ('A' ≤ c && c ≤ 'F')

/-- A character number, after the number sign: its digits with the mark for hexadecimal. -/
def characterNumber : List Char → Scan (List Char)
  | [] => .error context.ending.atMark
  | 'x' :: rest =>
    match rest with
    | [] => .error context.ending.atMark
    | c :: after =>
      if isHexDigit c then
        match moreDigits context isHexDigit after with
        | .ok (digits, left) => .ok ('x' :: c :: digits, left)
        | .error stop => .error stop
      else .error (.invalid rest)
  | c :: rest =>
    if isAsciiDigit c then
      match moreDigits context isAsciiDigit rest with
      | .ok (digits, left) => .ok (c :: digits, left)
      | .error stop => .error stop
    else .error (.invalid (c :: rest))

/-- A reference, after its ampersand. -/
def reference : List Char → Scan Token
  | '#' :: rest =>
    match characterNumber context rest with
    | .ok (digits, left) => .ok (.character digits, left)
    | .error stop => .error stop
  | cs =>
    match name context cs with
    | .error stop => .error stop
    | .ok (_, []) => .error context.ending.inText
    | .ok (entity, ';' :: left) => .ok (.entity entity, left)
    | .ok (_, rest) => .error (.invalid rest)

/-- The value of an attribute up to its closing quote. References are looked at for their form;
`skip` counts the characters of one that are still in front. -/
def attributeValue (quote : Char) (skip : Nat) : List Char → Scan (List Char)
  | [] => .error context.ending.inText
  | c :: rest =>
    match skip with
    | skip + 1 =>
      match attributeValue quote skip rest with
      | .ok (value, left) => .ok (c :: value, left)
      | .error stop => .error stop
    | 0 =>
      if c = quote then .ok ([], rest)
      else if c = '<' || !isDocumentChar c then .error (.invalid (c :: rest))
      else if c = '&' then
        match reference context rest with
        | .error stop => .error stop
        | .ok (token, _) =>
          match attributeValue quote (token.lexeme.length - 1) rest with
          | .ok (value, left) => .ok (c :: value, left)
          | .error stop => .error stop
      else
        match attributeValue quote 0 rest with
        | .ok (value, left) => .ok (c :: value, left)
        | .error stop => .error stop

/-- The equals sign after the name of an attribute, with the white space around it. -/
def equalsSign (cs : List Char) : Scan (List Char) :=
  match spaces cs with
  | (before, []) =>
    .error (if before.isEmpty then context.ending.inText else context.ending.atMark)
  | (before, '=' :: rest) =>
    let (between, left) := spaces rest
    .ok (before ++ '=' :: between, left)
  | (_, rest) => .error (.invalid rest)

/-- An attribute; `lead` is the white space before it. -/
def rawAttribute (lead cs : List Char) : Scan RawAttribute :=
  match name context cs with
  | .error stop => .error stop
  | .ok (name, rest) =>
    match equalsSign context rest with
    | .error stop => .error stop
    | .ok (middle, rest) =>
      match rest with
      | [] => .error context.ending.atMark
      | quote :: rest' =>
        if quote = '"' || quote = '\'' then
          match attributeValue context quote 0 rest' with
          | .error stop => .error stop
          | .ok (value, left) => .ok (⟨lead, name, middle, quote, value⟩, left)
        else .error (.invalid rest)

/-- The end of a start tag: a greater-than sign, or a solidus before one for an empty element. -/
def tagEnd : List Char → Scan Bool
  | '>' :: left => .ok (false, left)
  | '/' :: rest =>
    match rest with
    | [] => .error context.ending.atMark
    | '>' :: left => .ok (true, left)
    | _ => .error (.invalid rest)
  | rest => .error (.invalid rest)

/-- The rest of a start tag after its name or after an attribute: attributes, the white space after
the last one, and whether the element is empty. Each attribute takes one of `room`. -/
def attributes (first : Bool) :
    (room : Nat) → List Char → Scan (List RawAttribute × List Char × Bool)
  | 0, _ => .error context.ending.inText
  | room + 1, cs =>
    let (lead, rest) := spaces cs
    match rest with
    | [] =>
      .error (if lead.isEmpty && !first then context.ending.atMark else context.ending.inText)
    | c :: _ =>
      if c = '>' || c = '/' then
        match tagEnd context rest with
        | .error stop => .error stop
        | .ok (empty, left) => .ok (([], lead, empty), left)
      else if lead.isEmpty then .error (.invalid rest)
      else
        match rawAttribute context lead rest with
        | .error stop => .error stop
        | .ok (a, rest) =>
          match attributes false room rest with
          | .error stop => .error stop
          | .ok ((more, trail, empty), left) => .ok ((a :: more, trail, empty), left)

/-- A start tag, after its less-than sign. -/
def startTag (cs : List Char) : Scan Token :=
  match name context cs with
  | .error stop => .error stop
  | .ok (name, rest) =>
    match attributes context true (rest.length + 1) rest with
    | .error stop => .error stop
    | .ok ((attributes, trail, empty), left) => .ok (.startTag name attributes trail empty, left)

/-- An end tag, after its solidus. -/
def endTag (cs : List Char) : Scan Token :=
  match name context cs with
  | .error stop => .error stop
  | .ok (name, rest) =>
    let (trail, rest) := spaces rest
    match rest with
    | [] => .error (if trail.isEmpty then context.ending.inText else context.ending.atMark)
    | '>' :: left => .ok (.endTag name trail, left)
    | _ => .error (.invalid rest)

end Scan

/-- The mark that opens a CDATA section, after its exclamation mark and first bracket. -/
def cdataMark : List Char := "CDATA[".toList

/-- The rest of a CDATA section. -/
def cdataBody (context : Context) : List Char → Except Snag (List Char × List Char)
  | [] =>
    .error (match context.ending with
      | .complete | .oddByte => ⟨.unclosedCdata, some []⟩
      | .truncated _ => ⟨.partialCharacter, some []⟩
      | .malformed _ _ => ⟨.invalidToken, some []⟩)
  | ']' :: ']' :: '>' :: rest => .ok ([], rest)
  | c :: rest =>
    if (c = ']' && (rest = [] || rest = [']']) || c = '\r' && rest = []) &&
        context.ending.isDone then
      .error ⟨.unclosedCdata, some (c :: rest)⟩
    else if isDocumentChar c then
      match cdataBody context rest with
      | .ok (body, left) => .ok (c :: body, left)
      | .error snag => .error snag
    else .error ⟨.invalidToken, some (c :: rest)⟩

/-- A CDATA section, after `<![`. The six characters that have to follow are asked for together. -/
def cdataSection (context : Context) (cs : List Char) : Except Snag (Token × List Char) :=
  let units := (cs.take 6).foldl (fun n c => n + context.scheme.units c) 0
  if (cs.length < 6) && units + context.ending.units < 6 then .error ⟨.unclosedToken, none⟩
  else
    let agreed := ((cs.zip cdataMark).takeWhile fun pair => pair.1 = pair.2).length
    if agreed < 6 then .error ⟨.invalidToken, some (cs.drop agreed)⟩
    else
      match cdataBody context (cs.drop 6) with
      | .error snag => .error snag
      | .ok (body, left) => .ok (.cdata body, left)

/-- Character data up to the next markup. The sign that closes a CDATA section may not stand in it.
A lone CR at the end, and brackets before half a unit, are the end of a document that lacks its end
tag. -/
def textRun (context : Context) : List Char → Except Snag (List Char × List Char)
  | [] => .ok ([], [])
  | ']' :: ']' :: '>' :: rest => .error ⟨.invalidToken, some ('>' :: rest)⟩
  | c :: rest =>
    if c = '<' || c = '&' then .ok ([], c :: rest)
    else if c = '\r' && rest = [] && context.scheme ≠ .replacement && context.ending.isDone then
      .error ⟨.noElement, some [c]⟩
    else if c = ']' && (rest = [] || rest = [']']) && context.ending = .oddByte then
      .error ⟨.noElement, some []⟩
    else if isDocumentChar c then
      match textRun context rest with
      | .ok (text, left) => .ok (c :: text, left)
      | .error snag => .error snag
    else .error ⟨.invalidToken, some (c :: rest)⟩

/-- The token at the front of a source that is not empty. -/
def Token.scan (context : Context) : List Char → Except Snag (Token × List Char)
  | '<' :: cs =>
    match cs with
    | '!' :: rest =>
      match rest with
      | [] => .error context.ending.atMark.snag
      | '-' :: rest =>
        match Scan.comment context rest with
        | .ok (body, left) => .ok (.comment body, left)
        | .error stop => .error stop.snag
      | '[' :: rest => cdataSection context rest
      | _ => .error (Stop.invalid rest).snag
    | '?' :: rest =>
      match Scan.instruction context rest with
      | .ok ((target, body), left) => .ok (.instruction target body, left)
      | .error stop => .error stop.snag
    | '/' :: rest => (Scan.endTag context rest).mapError Stop.snag
    | _ => (Scan.startTag context cs).mapError Stop.snag
  | '&' :: cs => (Scan.reference context cs).mapError Stop.snag
  | cs =>
    match textRun context cs with
    | .ok (source, left) => .ok (.text source, left)
    | .error snag => .error snag

end MemberDocs.Xml
