import MemberDocs.Xml.CodePage

/-! # Reading bytes as characters

A source is bytes. `Encoding.detect` tells from the first bytes how to read them, `Encoding.decode`
reads them up to the first that mean no character, and `Encoding.named` finds the encoding that a
declaration names.
-/

namespace MemberDocs.Xml

/-- A way to write characters as bytes. -/
inductive Encoding where
  | utf8
  | utf16 (bigEndian : Bool)
  | latin1
  | ascii
  | page (table : List (Option Char))
deriving DecidableEq

namespace Encoding

def scheme : Encoding → Scheme
  | utf8 => .utf8
  | utf16 _ => .utf16
  | latin1 => .latin1
  | ascii => .ascii
  | page _ => .page

/-- A byte that follows the first of a character in UTF-8. -/
def isContinuation (b : UInt8) : Bool :=
  0x80 ≤ b && b < 0xC0

/-- The payload of a continuation byte. -/
def payload (b : UInt8) : Nat :=
  b.toNat % 64

/-- The characters of bytes in UTF-8, and how the bytes go on. -/
def decodeUtf8 : List UInt8 → List Char × Ending
  | [] => ([], .complete)
  | b0 :: rest =>
    if b0 < 0x80 then
      let (cs, ending) := decodeUtf8 rest
      (Char.ofNat b0.toNat :: cs, ending)
    else if b0 < 0xC0 || 0xF5 ≤ b0 then ([], .malformed false (rest.length + 1))
    else if b0 < 0xE0 then
      match rest with
      | [] => ([], .truncated 1)
      | b1 :: rest =>
        if b0 < 0xC2 || !isContinuation b1 then ([], .malformed true (rest.length + 2))
        else
          let (cs, ending) := decodeUtf8 rest
          (Char.ofNat ((b0.toNat % 32) * 64 + payload b1) :: cs, ending)
    else if b0 < 0xF0 then
      match rest with
      | [] => ([], .truncated 1)
      | [_] => ([], .truncated 2)
      | b1 :: b2 :: rest =>
        let n := (b0.toNat % 16) * 4096 + payload b1 * 64 + payload b2
        if !isContinuation b1 || !isContinuation b2 || n < 0x800 || (0xD800 ≤ n && n < 0xE000) ||
            n = 0xFFFE || n = 0xFFFF then
          ([], .malformed true (rest.length + 3))
        else
          let (cs, ending) := decodeUtf8 rest
          (Char.ofNat n :: cs, ending)
    else
      match rest with
      | [] => ([], .truncated 1)
      | [_] => ([], .truncated 2)
      | [_, _] => ([], .truncated 3)
      | b1 :: b2 :: b3 :: rest =>
        let n := (b0.toNat % 8) * 262144 + payload b1 * 4096 + payload b2 * 64 + payload b3
        if !isContinuation b1 || !isContinuation b2 || !isContinuation b3 || n < 0x10000 ||
            0x110000 ≤ n then
          ([], .malformed true (rest.length + 4))
        else
          let (cs, ending) := decodeUtf8 rest
          (Char.ofNat n :: cs, ending)

/-- A unit of two bytes. -/
def unit16 (bigEndian : Bool) (b0 b1 : UInt8) : Nat :=
  if bigEndian then b0.toNat * 256 + b1.toNat else b1.toNat * 256 + b0.toNat

/-- The characters of bytes in units of two, and how the bytes go on. The unit after a high
surrogate gives its low ten bits, whatever it is. -/
def decodeUtf16 (bigEndian : Bool) : List UInt8 → List Char × Ending
  | [] => ([], .complete)
  | [_] => ([], .oddByte)
  | b0 :: b1 :: rest =>
    let n := unit16 bigEndian b0 b1
    if 0xD800 ≤ n && n < 0xDC00 then
      match rest with
      | b2 :: b3 :: rest =>
        let low := unit16 bigEndian b2 b3 % 1024
        let (cs, ending) := decodeUtf16 bigEndian rest
        (Char.ofNat (0x10000 + (n % 1024) * 1024 + low) :: cs, ending)
      | _ => ([], .truncated 1)
    else if (0xDC00 ≤ n && n < 0xE000) || n = 0xFFFE || n = 0xFFFF then
      ([], .malformed false (rest.length / 2 + 1))
    else
      let (cs, ending) := decodeUtf16 bigEndian rest
      (Char.ofNat n :: cs, ending)

/-- The characters of bytes of which each is one character, and how the bytes go on. -/
def decodeBytes (table : UInt8 → Option Char) : List UInt8 → List Char × Ending
  | [] => ([], .complete)
  | b :: rest =>
    match table b with
    | none => ([], .malformed false (rest.length + 1))
    | some c =>
      let (cs, ending) := decodeBytes table rest
      (c :: cs, ending)

/-- The characters that bytes stand for, up to the first bytes that stand for none. -/
def decode : Encoding → List UInt8 → List Char × Ending
  | utf8, bytes => decodeUtf8 bytes
  | utf16 bigEndian, bytes => decodeUtf16 bigEndian bytes
  | latin1, bytes => decodeBytes (fun b => some (Char.ofNat b.toNat)) bytes
  | ascii, bytes =>
    decodeBytes (fun b => if b < 128 then some (Char.ofNat b.toNat) else none) bytes
  | page table, bytes =>
    let characters := table.toArray
    decodeBytes (fun b => (characters[b.toNat]?).join) bytes

/-- The encodings that have names of their own; what units they are written in is checked by the
reader of the declaration. In a source of two-byte units, the plain name means its own order. -/
def named (current : Encoding) (name : String) : Option Encoding :=
  let key := name.map Char.toUpper
  if name.length ≥ 128 then none
  else if key = "UTF-16" then
    match current with
    | utf16 bigEndian => some (utf16 bigEndian)
    | _ => some (utf16 true)
  else if key = "ISO-8859-1" then some latin1
  else if key = "US-ASCII" then some ascii
  else if key = "UTF-8" then some utf8
  else if key = "UTF-16BE" then some (utf16 true)
  else if key = "UTF-16LE" then some (utf16 false)
  else none

/-- How many bytes the code units of a source take. -/
def unitBytes : Encoding → Nat
  | utf16 _ => 2
  | _ => 1

/-- What the first bytes of a source tell. -/
inductive Detected where
  /-- The bytes are read in this encoding, after a byte order mark of as many bytes. -/
  | encoding (encoding : Encoding) (mark : Nat)
  /-- There are too few bytes to tell. -/
  | undecided
deriving DecidableEq

/-- Tells the encoding from the first bytes: a byte order mark, or a zero byte beside the first
character. -/
def detect : List UInt8 → Detected
  | [] => .encoding utf8 0
  | [b] =>
    if b = 0xFE || b = 0xFF || b = 0xEF || b = 0x00 || b = 0x3C then .undecided
    else .encoding utf8 0
  | b0 :: b1 :: rest =>
    if b0 = 0xFE && b1 = 0xFF then .encoding (utf16 true) 2
    else if b0 = 0xFF && b1 = 0xFE then .encoding (utf16 false) 2
    else if b0 = 0xEF && b1 = 0xBB then
      match rest with
      | [] => .undecided
      | b2 :: _ => .encoding utf8 (if b2 = 0xBF then 3 else 0)
    else if b0 = 0 then .encoding (utf16 true) 0
    else if b1 = 0 then .encoding (utf16 false) 0
    else .encoding utf8 0

end Encoding

end MemberDocs.Xml
