/-! # Reading positions

A reading position in a YAML text: the characters that are left, how many have been read, and the
line and the column, both counted from zero. The byte order mark takes no column.
-/

namespace MemberDocs.Yaml

/-- A character that ends a line. -/
def isBreak (c : Char) : Bool :=
  c = '\n' || c = '\r' || c = '\u0085' || c = '\u2028' || c = '\u2029'

/-- A character that parts two tokens. -/
def isGap (c : Char) : Bool :=
  c = ' ' || c = '\t' || isBreak c

/-- A letter, a digit, a hyphen or an underscore of ASCII. -/
def isWordChar (c : Char) : Bool :=
  c.isAlphanum || c = '-' || c = '_'

def isHexDigit (c : Char) : Bool :=
  c.isDigit || ('a' ≤ c && c ≤ 'f') || ('A' ≤ c && c ≤ 'F')

/-- A character that a YAML text may hold. -/
def isAllowed (c : Char) : Bool :=
  let n := c.toNat
  n = 9 || n = 10 || n = 13 || (32 ≤ n && n ≤ 126) || n = 0x85 || (0xA0 ≤ n && n ≤ 0xD7FF) ||
    (0xE000 ≤ n && n ≤ 0xFFFD) || 0x10000 ≤ n

/-- The rest of a text is at its end or goes on with a character of a class. -/
def atEndOr (p : Char → Bool) : List Char → Bool
  | [] => true
  | c :: _ => p c

/-- The rest of a text goes on with a character of a class. -/
def startsWith (p : Char → Bool) : List Char → Bool
  | [] => false
  | c :: _ => p c

/-- The mark of a document, three times the same sign with a gap after it. -/
def isDocumentMark (sign : Char) : List Char → Bool
  | a :: b :: c :: rest => a = sign && b = sign && c = sign && atEndOr isGap rest
  | _ => false

/-- A mark that ends the document or starts the next one. -/
def isDocumentBoundary (cs : List Char) : Bool :=
  isDocumentMark '-' cs || isDocumentMark '.' cs

/-- A reading position. -/
structure Cursor where
  rest : List Char
  index : Nat
  line : Nat
  column : Nat
deriving Repr

namespace Cursor

/-- The position at the front of a text. -/
def start (source : List Char) : Cursor := ⟨source, 0, 0, 0⟩

/-- The position after one character. A CR before an LF does not end a line of its own. -/
def next (cursor : Cursor) : Cursor :=
  match cursor.rest with
  | [] => cursor
  | c :: rest =>
    if isBreak c && !(c = '\r' && startsWith (· = '\n') rest) then
      ⟨rest, cursor.index + 1, cursor.line + 1, 0⟩
    else if c = '\uFEFF' then ⟨rest, cursor.index + 1, cursor.line, cursor.column⟩
    else ⟨rest, cursor.index + 1, cursor.line, cursor.column + 1⟩

/-- The position after some characters. -/
def skip : Nat → Cursor → Cursor
  | 0, cursor => cursor
  | n + 1, cursor => skip n cursor.next

/-- The characters of a class that are in front. -/
def run (p : Char → Bool) (cursor : Cursor) : List Char :=
  cursor.rest.takeWhile p

/-- The position after the characters of a class that are in front. -/
def skipRun (p : Char → Bool) (cursor : Cursor) : Cursor :=
  cursor.skip (cursor.run p).length

/-- The position after the spaces in front. -/
def skipSpaces (cursor : Cursor) : Cursor :=
  cursor.skipRun (· = ' ')

/-- The line break in front and the position after it. All breaks are read as a line feed but for the
separators of lines and of paragraphs, which are kept. -/
def lineBreak? (cursor : Cursor) : Option (Char × Cursor) :=
  match cursor.rest with
  | '\r' :: '\n' :: _ => some ('\n', cursor.skip 2)
  | c :: _ =>
    if isBreak c then some (if c = '\u2028' || c = '\u2029' then c else '\n', cursor.next)
    else none
  | [] => none

/-- The position after a comment in front. -/
def skipComment (cursor : Cursor) : Cursor :=
  match cursor.rest with
  | '#' :: _ => cursor.skipRun (!isBreak ·)
  | _ => cursor

/-- The position after what may end a line that holds something: spaces, a comment and the break;
nothing if there is more on the line. -/
def skipLineEnd? (cursor : Cursor) : Option Cursor :=
  let cursor := cursor.skipSpaces.skipComment
  match cursor.rest with
  | [] => some cursor
  | _ => cursor.lineBreak?.map (·.2)

end Cursor

end MemberDocs.Yaml
