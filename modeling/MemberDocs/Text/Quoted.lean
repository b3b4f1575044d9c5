import MemberDocs.Text.Lowercase
import MemberDocs.Text.PrintableTable

/-! # Quoted texts

How a text or a sequence of bytes is shown inside a message: between single quotes, or between
double quotes if it holds a single one and no double one, with a backslash escape for the quote, the
backslash, the tab and the line breaks, and a numbered escape for what cannot be printed.
-/

namespace MemberDocs.Text

/-- A character that is shown as it is. -/
def isPrintable (c : Char) : Bool :=
  if c.toNat < 127 then 32 ≤ c.toNat else inRanges printableRanges c.toNat

/-- A number in hexadecimal small digits, written with at least `width` of them. -/
def hexDigits (width n : Nat) : List Char :=
  let digits := Nat.toDigits 16 n
  List.replicate (width - digits.length) '0' ++ digits

/-- The numbered escape of a code point: two, four or eight digits. -/
def numberedEscape (n : Nat) : List Char :=
  if n < 0x100 then '\\' :: 'x' :: hexDigits 2 n
  else if n < 0x10000 then '\\' :: 'u' :: hexDigits 4 n
  else '\\' :: 'U' :: hexDigits 8 n

/-- The escape of a character that needs one between the quotes `quote`. -/
def escape? (quote c : Char) : Option (List Char) :=
  if c = '\\' || c = quote then some ['\\', c]
  else if c = '\n' then some ['\\', 'n']
  else if c = '\r' then some ['\\', 'r']
  else if c = '\t' then some ['\\', 't']
  else none

/-- The quote that a text is shown between. -/
def quoteFor (cs : List Char) : Char :=
  if cs.contains '\'' && !cs.contains '"' then '"' else '\''

/-- The text as it is shown in a message. -/
def quoted (s : String) : String :=
  let cs := s.toList
  let quote := quoteFor cs
  let shown := cs.flatMap fun c =>
    (escape? quote c).getD (if isPrintable c then [c] else numberedEscape c.toNat)
  String.ofList (quote :: shown ++ [quote])

/-- Bytes as they are shown in a message: a small b, then the bytes between quotes, those of
printable ASCII as their characters. -/
def quotedBytes (bytes : List UInt8) : String :=
  let cs := bytes.map fun b => Char.ofNat b.toNat
  let quote := quoteFor cs
  let shown := cs.flatMap fun c =>
    (escape? quote c).getD
      (if 32 ≤ c.toNat && c.toNat < 127 then [c] else numberedEscape c.toNat)
  String.ofList ('b' :: quote :: shown ++ [quote])

end MemberDocs.Text
