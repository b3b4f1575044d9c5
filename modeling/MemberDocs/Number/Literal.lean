import MemberDocs.Number.Binary64
import MemberDocs.Text.Blank
import MemberDocs.Text.DigitTable

/-! # Numbers written in a text

Integers in a base and decimal fractions, as a person writes them: blanks may stand around a number
and its digits may be those of any script. An integer in base ten may have at most 4300 digits.
-/

namespace MemberDocs

/-- Why a text is not the number that it should be. -/
inductive LiteralFault where
  /-- The text is not a number of the kind. -/
  | malformed
  /-- The integer has more digits than are read. -/
  | tooLong (digits : Nat)
deriving DecidableEq, Repr

/-- The most digits of an integer in base ten, in reading and in writing. -/
def digitLimit : Nat := 4300

/-- A digit of any script as the digit of ASCII, and a blank of the wider set as a space. What can
be no part of a number becomes a question mark. -/
def asciiDigit (c : Char) : Char :=
  if c.toNat < 127 then c
  else if Text.isBlank c then ' '
  else
    match Text.digitValue? c with
    | some d => Char.ofNat ('0'.toNat + d)
    | none => '?'

/-- A blank that may stand around a number. -/
def isNumberSpace (c : Char) : Bool :=
  c = ' ' || (9 ≤ c.toNat && c.toNat ≤ 13)

/-- The value of a digit in bases up to 36. -/
def digitOf (c : Char) : Nat :=
  if '0' ≤ c && c ≤ '9' then c.toNat - '0'.toNat
  else if 'a' ≤ c && c ≤ 'z' then c.toNat - 'a'.toNat + 10
  else if 'A' ≤ c && c ≤ 'Z' then c.toNat - 'A'.toNat + 10
  else 36

/-- The number that a sequence of digits denotes. -/
def digitsValue (base : Nat) (digits : List Char) : Nat :=
  digits.foldl (fun n c => n * base + digitOf c) 0

/-- A sign at the front: whether it is a minus, and what follows it. -/
def takeSign : List Char → Bool × List Char
  | '-' :: rest => (true, rest)
  | '+' :: rest => (false, rest)
  | cs => (false, cs)

/-- What follows the mark of a base at the front of a number. -/
def dropBaseMark (base : Nat) : List Char → List Char
  | '0' :: mark :: rest =>
    if (base = 16 && (mark = 'x' || mark = 'X')) || (base = 8 && (mark = 'o' || mark = 'O')) ||
        (base = 2 && (mark = 'b' || mark = 'B')) then rest
    else '0' :: mark :: rest
  | cs => cs

def readInt (base : Nat) (text : List Char) : Except LiteralFault Int :=
  let (negative, cs) := takeSign ((text.map asciiDigit).dropWhile isNumberSpace)
  let cs := dropBaseMark base cs
  let digits := cs.takeWhile fun c => digitOf c < base
  let after := cs.dropWhile fun c => digitOf c < base
  if base = 10 && digitLimit < digits.length then .error (.tooLong digits.length)
  else if digits.isEmpty || !after.all isNumberSpace then .error .malformed
  else
    let n : Int := digitsValue base digits
    .ok (if negative then -n else n)

/-- The exponent at the end of a decimal fraction. -/
def readExponent? : List Char → Option Int
  | [] => some 0
  | mark :: cs =>
    if mark = 'e' || mark = 'E' then
      let (negative, digits) := takeSign cs
      if digits.isEmpty || !digits.all (digitOf · < 10) then none
      else
        let n : Int := digitsValue 10 digits
        some (if negative then -n else n)
    else none

/-- A decimal fraction without its sign. -/
def readFraction? (negative : Bool) (cs : List Char) : Option Binary64 :=
  let isDigit (c : Char) : Bool := digitOf c < 10
  let whole := cs.takeWhile isDigit
  let rest := cs.dropWhile isDigit
  let (fraction, rest) :=
    match rest with
    | '.' :: rest => (rest.takeWhile isDigit, rest.dropWhile isDigit)
    | _ => ([], rest)
  if whole.isEmpty && fraction.isEmpty then none
  else
    (readExponent? rest).map fun exponent =>
      Binary64.ofDecimal negative (digitsValue 10 (whole ++ fraction)) (exponent - fraction.length)

/-- Reads a floating point number: a decimal fraction, or one of the words for infinity and for no
number, in any case. -/
def readFloat (text : List Char) : Except LiteralFault Binary64 :=
  let trimmed := ((text.map asciiDigit).dropWhile isNumberSpace).reverse.dropWhile isNumberSpace
  let (negative, cs) := takeSign trimmed.reverse
  let word := String.ofList (cs.map Char.toLower)
  if word = "inf" || word = "infinity" then .ok (.infinite negative)
  else if word = "nan" then .ok .nan
  else
    match readFraction? negative cs with
    | some x => .ok x
    | none => .error .malformed

/-- An integer in base ten, unless it has more digits than are written. -/
def intText? (n : Int) : Option String :=
  let digits := Nat.toDigits 10 n.natAbs
  if digitLimit < digits.length then none
  else some (String.ofList ((if n < 0 then ['-'] else []) ++ digits))

end MemberDocs
