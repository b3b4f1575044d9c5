/-! # Base 64

Bytes as text of 64 characters, each for six bits. Reading is lenient: characters outside of the
alphabet are passed over, and reading stops at the padding that fills a group of four.
-/

namespace MemberDocs.Text

/-- The alphabet of base 64. -/
def base64Alphabet : List Char :=
  "ABCDEFGHIJKLMNOPQRSTUVWXYZabcdefghijklmnopqrstuvwxyz0123456789+/".toList

/-- The six bits that a character stands for. -/
def base64Value? (c : Char) : Option Nat :=
  if 'A' ≤ c && c ≤ 'Z' then some (c.toNat - 'A'.toNat)
  else if 'a' ≤ c && c ≤ 'z' then some (c.toNat - 'a'.toNat + 26)
  else if '0' ≤ c && c ≤ '9' then some (c.toNat - '0'.toNat + 52)
  else if c = '+' then some 62
  else if c = '/' then some 63
  else none

/-- Reads base 64 from the middle of a group: `filled` characters of it have been read, `left` are
the bits that make no whole byte yet, and `pads` counts the padding just read. -/
def base64Bytes (filled left pads : Nat) : List Char → Option (List UInt8)
  | [] => if filled = 0 then some [] else none
  | c :: rest =>
    if c = '=' then
      if 2 ≤ filled then
        if 4 ≤ filled + (pads + 1) then some [] else base64Bytes filled left (pads + 1) rest
      else base64Bytes filled left pads rest
    else
      match base64Value? c with
      | none => base64Bytes filled left pads rest
      | some v =>
        match filled with
        | 0 => base64Bytes 1 v 0 rest
        | 1 => (base64Bytes 2 (v % 16) 0 rest).map (UInt8.ofNat (left * 4 + v / 16) :: ·)
        | 2 => (base64Bytes 3 (v % 4) 0 rest).map (UInt8.ofNat (left * 16 + v / 4) :: ·)
        | _ => (base64Bytes 0 0 0 rest).map (UInt8.ofNat (left * 64 + v) :: ·)

/-- The bytes of a text in base 64; nothing if its last group is not complete. -/
def ofBase64? (s : String) : Option (List UInt8) :=
  base64Bytes 0 0 0 s.toList

/-- Bytes in base 64. -/
def toBase64Chars : List UInt8 → List Char
  | [] => []
  | [a] =>
    let n := a.toNat * 16
    [n / 64, n % 64].map (base64Alphabet.getD · '=') ++ ['=', '=']
  | [a, b] =>
    let n := (a.toNat * 256 + b.toNat) * 4
    [n / 4096, n / 64 % 64, n % 64].map (base64Alphabet.getD · '=') ++ ['=']
  | a :: b :: c :: rest =>
    let n := (a.toNat * 256 + b.toNat) * 256 + c.toNat
    [n / 262144, n / 4096 % 64, n / 64 % 64, n % 64].map (base64Alphabet.getD · '=') ++
      toBase64Chars rest

/-- Bytes in base 64. -/
def toBase64 (bytes : List UInt8) : String :=
  String.ofList (toBase64Chars bytes)

end MemberDocs.Text
