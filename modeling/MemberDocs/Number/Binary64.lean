/-! # Binary floating point numbers

The floating point numbers of 64 bits as exact values: a finite one is a mantissa below 2^53 times a
power of two. An exact ratio is rounded to the nearest of them, and of two equally near ones to the
one with the even mantissa (`Binary64.round`); sums and products are rounded exact sums and
products.
-/

namespace MemberDocs

/-- A floating point number of 64 bits. -/
inductive Binary64 where
  | nan
  | infinite (negative : Bool)
  /-- The value `mantissa * 2 ^ exponent`. -/
  | finite (negative : Bool) (mantissa : Nat) (exponent : Int)
deriving DecidableEq, Repr, Inhabited

/-- The ratio `num / den` times a power of two, as a ratio. -/
def scaleRatio (num den : Nat) (exponent : Int) : Nat × Nat :=
  match exponent with
  | .ofNat e => (num * Nat.pow 2 e, den)
  | .negSucc e => (num, den * Nat.pow 2 (e + 1))

/-- The natural number nearest to `num / den`, of two the even one. -/
def roundHalfEven (num den : Nat) : Nat :=
  let quotient := num / den
  let twice := 2 * (num % den)
  if twice < den || (twice = den && quotient % 2 = 0) then quotient else quotient + 1

/-- The exponent of the highest power of two that is at most `num / den`. -/
def ratioLog2 (num den : Nat) : Int :=
  let guess : Int := (num.log2 : Int) - den.log2
  let scaled := scaleRatio num den (-guess)
  if scaled.2 ≤ scaled.1 then guess else guess - 1

namespace Binary64

/-- The least exponent of a finite number. -/
def leastExponent : Int := -1074

/-- The highest exponent of a finite number. -/
def highestExponent : Int := 971

def zero : Binary64 := finite false 0 leastExponent

/-- The number nearest to `num / den`, with the given sign. -/
def round (negative : Bool) (num den : Nat) : Binary64 :=
  if num = 0 then finite negative 0 leastExponent
  else
    let exponent := max (ratioLog2 num den - 52) leastExponent
    let scaled := scaleRatio num den (-exponent)
    let mantissa := roundHalfEven scaled.1 scaled.2
    let (mantissa, exponent) :=
      if mantissa = Nat.pow 2 53 then (Nat.pow 2 52, exponent + 1) else (mantissa, exponent)
    if highestExponent < exponent then infinite negative
    else finite negative mantissa exponent

/-- The number nearest to `digits * 10 ^ power`. A power that is out of reach for the number of
digits makes an infinite number or zero at once. -/
def ofDecimal (negative : Bool) (digits : Nat) (power : Int) : Binary64 :=
  let places : Int := (Nat.toDigits 10 digits).length
  if digits = 0 || places + power < -330 then finite negative 0 leastExponent
  else if 310 < places + power then infinite negative
  else
    match power with
    | .ofNat p => round negative (digits * Nat.pow 10 p) 1
    | .negSucc p => round negative digits (Nat.pow 10 (p + 1))

/-- The number nearest to an integer. -/
def ofInt (n : Int) : Binary64 :=
  round (n < 0) n.natAbs 1

def neg : Binary64 → Binary64
  | nan => nan
  | infinite negative => infinite !negative
  | finite negative mantissa exponent => finite (!negative) mantissa exponent

/-- The exact value of a finite number, as a numerator and a denominator. -/
def ratio (negative : Bool) (mantissa : Nat) (exponent : Int) : Int × Nat :=
  let (num, den) := scaleRatio mantissa 1 exponent
  (if negative then -(num : Int) else num, den)

/-- The sum. A zero sum is negative only if both terms are. -/
def add : Binary64 → Binary64 → Binary64
  | nan, _ | _, nan => nan
  | infinite a, infinite b => if a = b then infinite a else nan
  | infinite a, _ | _, infinite a => infinite a
  | finite a m e, finite b n f =>
    let (p, q) := ratio a m e
    let (r, s) := ratio b n f
    let sum := p * s + r * q
    if sum = 0 then finite (a && b) 0 leastExponent
    else round (sum < 0) sum.natAbs (q * s)

/-- The product. -/
def mul : Binary64 → Binary64 → Binary64
  | nan, _ | _, nan => nan
  | infinite a, infinite b => infinite (a != b)
  | infinite a, finite b n _ | finite b n _, infinite a =>
    if n = 0 then nan else infinite (a != b)
  | finite a m e, finite b n f =>
    let (p, q) := ratio a m e
    let (r, s) := ratio b n f
    round (a != b) (p * r).natAbs (q * s)

/-- Equality of values: a number that is no number equals nothing, and the two zeros are equal. -/
def sameValue : Binary64 → Binary64 → Bool
  | infinite a, infinite b => a = b
  | finite a m e, finite b n f =>
    let (p, q) := ratio a m e
    let (r, s) := ratio b n f
    p * s = r * q
  | _, _ => false

/-- The number has exactly the value of an integer. -/
def equalsInt (x : Binary64) (i : Int) : Bool :=
  match x with
  | finite a m e =>
    let (p, q) := ratio a m e
    p = i * q
  | _ => false

end Binary64

end MemberDocs
