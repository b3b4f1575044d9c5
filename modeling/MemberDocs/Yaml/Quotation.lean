import MemberDocs.Yaml.Fault
import MemberDocs.Yaml.Plain

/-! # Quoted scalars

A scalar between single quotes, in which a quote is written twice, or between double quotes, in
which a backslash starts an escape. Line breaks inside are folded, and no line of a quoted scalar may
be a mark of a document.
-/

namespace MemberDocs.Yaml

/-- The refusal of a token that cannot be read. -/
def badToken : Fault := .refused .badToken

/-- The line breaks in front, with the blanks around them. -/
def quotedBreaks : Nat → Cursor → Except Fault (List Char × Cursor)
  | 0, _ => .error badToken
  | fuel + 1, cursor =>
    if isDocumentBoundary cursor.rest then .error badToken
    else
      let cursor := cursor.skipRun fun c => c = ' ' || c = '\t'
      match cursor.lineBreak? with
      | none => .ok ([], cursor)
      | some (c, after) => do
        let (breaks, last) ← quotedBreaks fuel after
        .ok (c :: breaks, last)

/-- The blanks in front: a run of blanks on a line, or line breaks, which are folded. -/
def quotedGap (cursor : Cursor) : Except Fault (List Char × Cursor) :=
  let isSpace (c : Char) : Bool := c = ' ' || c = '\t'
  let after := cursor.skipRun isSpace
  match after.rest with
  | [] => .error badToken
  | _ =>
    match after.lineBreak? with
    | none => .ok (cursor.run isSpace, after)
    | some (c, after) => do
      let (breaks, last) ← quotedBreaks (after.rest.length + 1) after
      .ok (foldBreaks c breaks, last)

/-- The character of an escape of one letter. -/
def escapeOf? (c : Char) : Option Char :=
  match c with
  | '0' => some '\x00'
  | 'a' => some '\x07'
  | 'b' => some '\x08'
  | 't' | '\t' => some '\t'
  | 'n' => some '\n'
  | 'v' => some '\x0b'
  | 'f' => some '\x0c'
  | 'r' => some '\r'
  | 'e' => some '\x1b'
  | ' ' => some ' '
  | '"' => some '"'
  | '\\' => some '\\'
  | '/' => some '/'
  | 'N' => some '\u0085'
  | '_' => some '\u00a0'
  | 'L' => some '\u2028'
  | 'P' => some '\u2029'
  | _ => none

/-- How many digits follow the letter of a numbered escape. -/
def escapeWidth? (c : Char) : Option Nat :=
  match c with
  | 'x' => some 2
  | 'u' => some 4
  | 'U' => some 8
  | _ => none

/-- The character of a code point; a surrogate, which is none, is replaced. -/
def charOfCode (code : Nat) : Except Fault Char :=
  if 0x110000 ≤ code then .error (.scalar (.noCharacter code))
  else if code.isValidChar then .ok (Char.ofNat code)
  else .ok '\uFFFD'

def readEscape (cursor : Cursor) : Except Fault (List Char × Cursor) :=
  match cursor.rest with
  | [] => .error badToken
  | c :: rest =>
    match escapeOf? c, escapeWidth? c with
    | some plain, _ => .ok ([plain], cursor.next)
    | none, some width =>
      let digits := rest.take width
      if digits.length = width && digits.all isHexDigit then do
        let character ← charOfCode (digitsValue 16 digits)
        .ok ([character], cursor.next.skip width)
      else .error badToken
    | none, none =>
      match cursor.lineBreak? with
      | some (_, after) => quotedBreaks (after.rest.length + 1) after
      | none => .error badToken

/-- Reads a quoted scalar after its opening quote, up to the closing one. -/
def quotedTail (quote : Char) : Nat → Cursor → Except Fault (List Char × Cursor)
  | 0, _ => .error badToken
  | fuel + 1, cursor =>
    match cursor.rest with
    | [] => .error badToken
    | c :: rest =>
      if c = quote then
        if quote = '\'' && startsWith (· = '\'') rest then do
          let (text, last) ← quotedTail quote fuel (cursor.skip 2)
          .ok (c :: text, last)
        else .ok ([], cursor.next)
      else if c = '\\' && quote = '"' then do
        let (part, after) ← readEscape cursor.next
        let (text, last) ← quotedTail quote fuel after
        .ok (part ++ text, last)
      else if isGap c then do
        let (gap, after) ← quotedGap cursor
        let (text, last) ← quotedTail quote fuel after
        .ok (gap ++ text, last)
      else do
        let (text, last) ← quotedTail quote fuel cursor.next
        .ok (c :: text, last)

def readQuoted (quote : Char) (cursor : Cursor) : Except Fault (List Char × Cursor) :=
  quotedTail quote (cursor.rest.length + 1) cursor.next

end MemberDocs.Yaml
