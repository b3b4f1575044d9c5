import MemberDocs.Xml.Token

/-! # Tokens outside of elements

Before the document element, inside the document type declaration, and after the document element, a
source is read as names, literals and single marks. `DeclToken.scan` reads the token at the front.
-/

namespace MemberDocs.Xml

/-- A mark for how often a part of a content model may occur. -/
inductive Occurrence where
  | once
  | optional
  | any
  | some
deriving DecidableEq, Repr

/-- A token outside of elements. -/
inductive DeclToken where
  | space
  | instruction (target : List Char)
  | comment
  /-- `<!` and a keyword. -/
  | opening (keyword : List Char)
  /-- `<![` -/
  | sectionOpen
  /-- `]]>` -/
  | sectionClose
  /-- The start of an element; nothing of it is consumed. -/
  | element
  | name (name : List Char) (occurrence : Occurrence)
  /-- A word that cannot be a name. -/
  | word (word : List Char)
  /-- A number sign and a name. -/
  | hashName (name : List Char)
  | literal (quote : Char) (text : List Char)
  | percent
  | parameterReference
  | comma
  | bar
  | openParen
  | closeParen (occurrence : Occurrence)
  | openBracket
  | closeBracket
  | close
deriving DecidableEq, Repr

namespace DeclToken

variable (context : Context)

/-- The text of a literal up to its closing quote, and what is left after the quote. -/
def literalText (quote : Char) : List Char → Scan (List Char)
  | [] => .error context.ending.inText
  | c :: rest =>
    if c = quote then .ok ([], rest)
    else if isDocumentChar c then
      match literalText quote rest with
      | .ok (text, left) => .ok (c :: text, left)
      | .error stop => .error stop
    else .error (.invalid (c :: rest))

/-- A literal, after its opening quote; white space or one of a few marks has to follow it. -/
def scanLiteral (quote : Char) (cs : List Char) : Scan DeclToken :=
  match literalText context quote cs with
  | .error stop => .error stop
  | .ok (text, []) =>
    if context.ending.isDone then .ok (.literal quote text, []) else .error (.invalid [])
  | .ok (text, c :: rest) =>
    if isSpace c || c = '>' || c = '%' || c = '[' then .ok (.literal quote text, c :: rest)
    else .error (.invalid (c :: rest))

/-- The keyword after `<!`. -/
def scanKeyword : List Char → Scan (List Char)
  | [] => .error context.ending.atMark
  | c :: rest =>
    if context.scheme.isPlainNameStart c then
      match scanKeyword rest with
      | .ok (more, left) => .ok (c :: more, left)
      | .error stop => .error stop
    else if isSpace c then .ok ([], c :: rest)
    else if c = '%' then
      match rest with
      | [] =>
        if context.ending.isDone then .error .unclosed else .ok ([], c :: rest)
      | next :: _ =>
        if isSpace next || next = '%' then .error (.invalid (c :: rest)) else .ok ([], c :: rest)
    else .error (.invalid (c :: rest))

/-- A declaration, after `<!`. -/
def scanDeclaration : List Char → Scan DeclToken
  | [] => .error context.ending.atMark
  | '-' :: rest =>
    match Scan.comment context rest with
    | .ok (_, left) => .ok (.comment, left)
    | .error stop => .error stop
  | '[' :: rest => .ok (.sectionOpen, rest)
  | c :: rest =>
    if context.scheme.isPlainNameStart c then
      match scanKeyword context (c :: rest) with
      | .ok (keyword, left) => .ok (.opening keyword, left)
      | .error stop => .error stop
    else .error (.invalid (c :: rest))

/-- A percent sign: alone before white space or another one, else in front of a name. -/
def scanPercent (cs : List Char) : Scan DeclToken :=
  match cs with
  | [] => .error context.ending.inText
  | c :: _ =>
    if isSpace c || c = '%' then .ok (.percent, cs)
    else
      match Scan.name context cs with
      | .error stop => .error stop
      | .ok (_, []) => .error context.ending.inText
      | .ok (_, ';' :: left) => .ok (.parameterReference, left)
      | .ok (_, rest) => .error (.invalid rest)

/-- A name after a number sign. -/
def scanHashName (cs : List Char) : Scan DeclToken :=
  match Scan.name context cs with
  | .error stop => .error stop
  | .ok (read, []) =>
    if context.ending.isDone then .ok (.hashName read, []) else .error context.ending.inText
  | .ok (read, c :: rest) =>
    if isSpace c || c = ')' || c = '>' || c = '%' || c = '|' then .ok (.hashName read, c :: rest)
    else .error (.invalid (c :: rest))

/-- How often the part before a mark may occur. -/
def occurrence? : Char → Option Occurrence
  | '?' => some .optional
  | '*' => some .any
  | '+' => some .some
  | _ => none

/-- A name with its occurrence mark, or a word of name characters that is no name. -/
def scanWord (cs : List Char) : Scan DeclToken :=
  match cs with
  | [] => .error context.ending.inText
  | first :: _ =>
    let (read, rest) := cs.span context.scheme.isNameChar
    let isName := context.scheme.isNameStart first
    let plain := if isName then DeclToken.name read .once else .word read
    match rest with
    | [] => if context.ending.isDone then .ok (plain, []) else .error context.ending.inText
    | c :: left =>
      if isSpace c || c = '>' || c = ')' || c = ',' || c = '|' || c = '[' || c = '%' then
        .ok (plain, rest)
      else
        match occurrence? c with
        | some occurrence =>
          if isName then .ok (.name read occurrence, left) else .error (.invalid rest)
        | none => .error (.invalid rest)

/-- A closing bracket, after it has been read: part of the end of a section if another one and a
greater-than sign follow. -/
def scanCloseBracket : List Char → Scan DeclToken
  | ']' :: '>' :: left => .ok (.sectionClose, left)
  | [']'] =>
    if context.ending.isDone then .error .unclosed else .ok (.closeBracket, [']'])
  | rest => .ok (.closeBracket, rest)

/-- A closing parenthesis, after it has been read. -/
def scanCloseParen : List Char → Scan DeclToken
  | [] => if context.ending.isDone then .ok (.closeParen .once, []) else .error (.invalid [])
  | c :: rest =>
    match occurrence? c with
    | some occurrence => .ok (.closeParen occurrence, rest)
    | none =>
      if isSpace c || c = '>' || c = ',' || c = '|' || c = ')' then
        .ok (.closeParen .once, c :: rest)
      else .error (.invalid (c :: rest))

/-- What follows a less-than sign. The start of an element is only looked at. -/
def scanOpening (cs : List Char) : Scan DeclToken :=
  match cs with
  | [] =>
    match context.ending with
    | .complete | .oddByte => .error .unclosed
    | .truncated _ => .ok (.element, ['<'])
    | .malformed lead _ => if lead then .ok (.element, ['<']) else .error (.invalid [])
  | c :: rest =>
    if c = '!' then scanDeclaration context rest
    else if c = '?' then
      match Scan.instruction context rest with
      | .ok ((target, _), left) => .ok (.instruction target, left)
      | .error stop => .error stop
    else if context.scheme.opensElement c then .ok (.element, '<' :: cs)
    else .error (.invalid cs)

/-- The token at the front of a source that is not empty. -/
def scan (cs : List Char) : Scan DeclToken :=
  match cs with
  | [] => .error context.ending.inText
  | c :: rest =>
    if isSpace c then .ok (.space, cs.dropWhile isSpace)
    else
      match c with
      | '"' => scanLiteral context '"' rest
      | '\'' => scanLiteral context '\'' rest
      | '<' => scanOpening context rest
      | '%' => scanPercent context rest
      | ',' => .ok (.comma, rest)
      | '[' => .ok (.openBracket, rest)
      | ']' => scanCloseBracket context rest
      | '(' => .ok (.openParen, rest)
      | ')' => scanCloseParen context rest
      | '|' => .ok (.bar, rest)
      | '>' => .ok (.close, rest)
      | '#' => scanHashName context rest
      | _ =>
        if context.scheme.isNameChar c then scanWord context cs else .error (.invalid cs)

end DeclToken

end MemberDocs.Xml
