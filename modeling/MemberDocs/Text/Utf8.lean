import MemberDocs.Text.Quoted

/-! # UTF-8

Text as bytes and bytes as text. Bytes that mean no character are a fault of the strict reading
(`decodeUtf8`); the lenient reading (`decodeUtf8Lenient`) puts the replacement character for each
longest run of bytes that could have started a character.
-/

namespace MemberDocs.Text

/-- A text in UTF-8. -/
def encodeUtf8 (s : String) : List UInt8 :=
  s.toList.flatMap String.utf8EncodeChar

/-- Why bytes mean no character. -/
inductive Utf8Reason where
  | invalidStart
  | invalidContinuation
  | unexpectedEnd
deriving DecidableEq, Repr

/-- What is at the front of some bytes: a character, or bytes that mean none, with their number. -/
inductive Utf8Front where
  | char (c : Char) (size : Nat)
  | bad (reason : Utf8Reason) (size : Nat)
deriving DecidableEq, Repr

/-- A byte that follows the first of a character. -/
def isContinuationByte (b : UInt8) : Bool :=
  0x80 ≤ b && b < 0xC0

/-- The six bits that a continuation byte adds to a number. -/
def addPayload (n : Nat) (b : UInt8) : Nat :=
  n * 64 + b.toNat % 64

/-- A second byte that can follow a first one: some first bytes leave no choice of their own. -/
def isSecondByte (first second : UInt8) : Bool :=
  isContinuationByte second &&
    !((first = 0xE0 && second < 0xA0) || (first = 0xED && 0xA0 ≤ second) ||
      (first = 0xF0 && second < 0x90) || (first = 0xF4 && 0x90 ≤ second))

/-- Reads what is at the front of some bytes, of which `b0` is the first. -/
def utf8Front (b0 : UInt8) (rest : List UInt8) : Utf8Front :=
  if b0 < 0x80 then .char (Char.ofNat b0.toNat) 1
  else if b0 < 0xC2 || 0xF5 ≤ b0 then .bad .invalidStart 1
  else
    match rest with
    | [] => .bad .unexpectedEnd 1
    | b1 :: rest =>
      if !isSecondByte b0 b1 then .bad .invalidContinuation 1
      else if b0 < 0xE0 then .char (Char.ofNat (addPayload (b0.toNat % 32) b1)) 2
      else
        match rest with
        | [] => .bad .unexpectedEnd 2
        | b2 :: rest =>
          if !isContinuationByte b2 then .bad .invalidContinuation 2
          else if b0 < 0xF0 then
            .char (Char.ofNat (addPayload (addPayload (b0.toNat % 16) b1) b2)) 3
          else
            match rest with
            | [] => .bad .unexpectedEnd 3
            | b3 :: _ =>
              if !isContinuationByte b3 then .bad .invalidContinuation 3
              else
                .char (Char.ofNat (addPayload (addPayload (addPayload (b0.toNat % 8) b1) b2) b3)) 4

/-- The first bytes of a text that mean no character. -/
structure Utf8Error where
  position : Nat
  size : Nat
  first : UInt8
  reason : Utf8Reason
deriving DecidableEq, Repr

def Utf8Reason.message : Utf8Reason → String
  | invalidStart => "invalid start byte"
  | invalidContinuation => "invalid continuation byte"
  | unexpectedEnd => "unexpected end of data"

/-- The wording of an error: one byte is shown, of several the positions. -/
def Utf8Error.message (error : Utf8Error) : String :=
  let place :=
    if error.size = 1 then
      "byte 0x" ++ String.ofList (hexDigits 2 error.first.toNat) ++ " in position " ++
        toString error.position
    else
      "bytes in position " ++ toString error.position ++ "-" ++
        toString (error.position + error.size - 1)
  "'utf-8' codec can't decode " ++ place ++ ": " ++ error.reason.message

/-- The characters of bytes from `position` on; `skip` counts the bytes of the last character that
are still in front. -/
def decodeUtf8From (position skip : Nat) : List UInt8 → Except Utf8Error (List Char)
  | [] => .ok []
  | b :: rest =>
    match skip with
    | skip + 1 => decodeUtf8From (position + 1) skip rest
    | 0 =>
      match utf8Front b rest with
      | .bad reason size => .error ⟨position, size, b, reason⟩
      | .char c size => (decodeUtf8From (position + 1) (size - 1) rest).map (c :: ·)

/-- The text that bytes stand for, all of them. -/
def decodeUtf8 (bytes : List UInt8) : Except Utf8Error (List Char) :=
  decodeUtf8From 0 0 bytes

/-- The characters of bytes, with the replacement character for bytes that mean none. -/
def decodeLenientFrom (skip : Nat) : List UInt8 → List Char
  | [] => []
  | b :: rest =>
    match skip with
    | skip + 1 => decodeLenientFrom skip rest
    | 0 =>
      match utf8Front b rest with
      | .bad _ size => '\uFFFD' :: decodeLenientFrom (size - 1) rest
      | .char c size => c :: decodeLenientFrom (size - 1) rest

/-- The text that bytes stand for, however bad they are. -/
def decodeUtf8Lenient (bytes : List UInt8) : List Char :=
  decodeLenientFrom 0 bytes

/-- The bytes without a byte order mark at the front. -/
def dropByteOrderMark : List UInt8 → List UInt8
  | 0xEF :: 0xBB :: 0xBF :: rest => rest
  | bytes => bytes

end MemberDocs.Text
