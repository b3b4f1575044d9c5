import MemberDocs.Text.Lowercase
import MemberDocs.Xml.NameTable

/-! # Character classes of XML

Which characters may stand in text, in names and at the front of names. The classes depend a little
on how the characters are written in the source (`Scheme`): the three letter-like signs of Latin-1
count as letters where a source is read through the Latin-1 page or in two-byte units, and not where
it is read in UTF-8 or through another page.
-/

namespace MemberDocs.Xml

/-- How the characters of a source are written. -/
inductive Scheme where
  /-- In UTF-8. -/
  | utf8
  /-- In units of two bytes. -/
  | utf16
  /-- One byte each, of the Latin-1 page. -/
  | latin1
  /-- One byte each, of the ASCII page. -/
  | ascii
  /-- One byte each, of another page. -/
  | page
  /-- As the replacement text of an entity, in which line endings have been read already. -/
  | replacement
deriving DecidableEq, Repr

/-- How a source goes on after the last of its characters. -/
inductive Ending where
  /-- It ends there. -/
  | complete
  /-- One byte of a two-byte unit is left. -/
  | oddByte
  /-- The bytes of the next character are not all there; `units` code units are left. -/
  | truncated (units : Nat)
  /-- Bytes that mean no character; `lead` says that the first starts one of several bytes, and
  `units` code units are left. -/
  | malformed (lead : Bool) (units : Nat)
deriving DecidableEq, Repr

/-- What scanning needs to know about a source besides its characters. -/
structure Context where
  scheme : Scheme
  ending : Ending := .complete
deriving DecidableEq, Repr

/-- White space of markup. -/
def isSpace (c : Char) : Bool :=
  c = ' ' || c = '\n' || c = '\t' || c = '\r'

/-- A character that may stand in a document. -/
def isDocumentChar (c : Char) : Bool :=
  if c.toNat < 32 then isSpace c else c.toNat ≠ 0xFFFE && c.toNat ≠ 0xFFFF

/-- An ASCII letter. -/
def isAsciiLetter (c : Char) : Bool :=
  ('a' ≤ c && c ≤ 'z') || ('A' ≤ c && c ≤ 'Z')

/-- An ASCII digit. -/
def isAsciiDigit (c : Char) : Bool :=
  '0' ≤ c && c ≤ '9'

namespace Scheme

/-- The letter-like signs of Latin-1 are letters. -/
def hasLetterSigns : Scheme → Bool
  | utf16 | latin1 => true
  | utf8 | ascii | page | replacement => false

/-- A character that may start a name. -/
def isNameStart (scheme : Scheme) (c : Char) : Bool :=
  if c.toNat < 128 then isAsciiLetter c || c = '_' || c = ':'
  else
    Text.inRanges letterRanges c.toNat ||
      (scheme.hasLetterSigns && (c = 'ª' || c = 'µ' || c = 'º'))

/-- A character that may stand in a name. -/
def isNameChar (scheme : Scheme) (c : Char) : Bool :=
  scheme.isNameStart c ||
    if c.toNat < 128 then isAsciiDigit c || c = '.' || c = '-'
    else Text.inRanges markRanges c.toNat

/-- A name start that takes one code unit and is told by that unit alone. -/
def isPlainNameStart (scheme : Scheme) (c : Char) : Bool :=
  scheme.isNameStart c &&
    match scheme with
    | utf8 | replacement => c.toNat < 128
    | utf16 => c.toNat < 256
    | latin1 | ascii | page => true

/-- A character that, after a less-than sign, is taken for the start of an element; whether it can
start a name is looked at later. -/
def opensElement (scheme : Scheme) (c : Char) : Bool :=
  scheme.isNameStart c ||
    match scheme with
    | utf8 | replacement => 128 ≤ c.toNat
    | utf16 => 256 ≤ c.toNat
    | latin1 | ascii | page => false

/-- How many code units a character takes. -/
def units (scheme : Scheme) (c : Char) : Nat :=
  match scheme with
  | utf8 | replacement => c.utf8Size
  | utf16 => if c.toNat < 0x10000 then 1 else 2
  | latin1 | ascii | page => 1

/-- Character data is translated into UTF-8 before it is told. -/
def isTranslated : Scheme → Bool
  | utf16 | latin1 | page => true
  | utf8 | ascii | replacement => false

/-- How many bytes a character takes. -/
def bytes (scheme : Scheme) (c : Char) : Nat :=
  match scheme with
  | utf16 => 2 * scheme.units c
  | _ => scheme.units c

end Scheme

namespace Ending

/-- How many code units are left. -/
def units : Ending → Nat
  | complete | oddByte => 0
  | truncated units => units
  | malformed _ units => units

/-- Nothing is left that could be taken for a character. -/
def isDone : Ending → Bool
  | complete | oddByte => true
  | truncated _ | malformed _ _ => false

end Ending

end MemberDocs.Xml
