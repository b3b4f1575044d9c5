import MemberDocs.Number.Binary64

/-! # The shortest decimal of a floating point number

A floating point number is written with the fewest digits that are read back as the same number;
among the decimals of that many digits the nearest one is taken. Positional notation is used for
exponents from -4 to 15, and a number in positional notation always shows a decimal point.
-/

namespace MemberDocs

/-- A way to write a number of fractional digits. -/
structure FloatFormat where
  /-- The least decimal exponent that is written positionally. -/
  leastPositional : Int
  /-- The least decimal exponent above it that is not. -/
  positionalEnd : Int
  /-- How many digits an exponent has at least. -/
  exponentDigits : Nat
  infinity : String
  notANumber : String

/-- The reals that are read back as one finite number: those between `low` and `high` over
`denominator`, with the two ends themselves if `closed`. -/
structure ReadingInterval where
  low : Nat
  value : Nat
  high : Nat
  denominator : Nat
  closed : Bool

/-- The reals that round to `mantissa * 2 ^ exponent`. The lower half of the gap is narrower just
above a power of two. -/
def readingInterval (mantissa : Nat) (exponent : Int) : ReadingInterval :=
  let isNarrow := mantissa = Nat.pow 2 52 && Binary64.leastExponent < exponent
  let (value, den) := scaleRatio (4 * mantissa) 4 exponent
  let (unit, _) := scaleRatio 1 4 exponent
  ⟨value - (if isNarrow then unit else 2 * unit), value, value + 2 * unit, den, mantissa % 2 = 0⟩

/-- The decimal `digits * 10 ^ power` lies in the interval. -/
def ReadingInterval.contains (interval : ReadingInterval) (digits : Nat) (power : Int) : Bool :=
  let (num, den) :=
    match power with
    | .ofNat p => (digits * Nat.pow 10 p, 1)
    | .negSucc p => (digits, Nat.pow 10 (p + 1))
  let place := num * interval.denominator
  let low := interval.low * den
  let high := interval.high * den
  (low < place && place < high) || (interval.closed && (place = low || place = high))

/-- Tries the decimals with the power `power` next to a number: the one below and the one above; of
two hits the nearer is taken, and of two equally near ones the even. -/
def ReadingInterval.decimalAt? (interval : ReadingInterval) (power : Int) : Option Nat :=
  let (num, den) :=
    match power with
    | .ofNat p => (interval.value, interval.denominator * Nat.pow 10 p)
    | .negSucc p => (interval.value * Nat.pow 10 (p + 1), interval.denominator)
  let below := num / den
  let near := roundHalfEven num den
  let far := if near = below then below + 1 else below
  if interval.contains near power then some near
  else if interval.contains far power then some far
  else none

/-- The decimal exponent of the first digit of a positive ratio, looked for downwards from
`start`. -/
def decimalExponent (num den : Nat) : Nat → Int → Int
  | 0, start => start
  | fuel + 1, start =>
    let isAtLeast : Bool :=
      match start with
      | .ofNat p => den * Nat.pow 10 p ≤ num
      | .negSucc p => den ≤ num * Nat.pow 10 (p + 1)
    if isAtLeast then start else decimalExponent num den fuel (start - 1)

/-- The first power from `power` downwards whose decimals have a hit, with that hit. -/
def ReadingInterval.shortestFrom (interval : ReadingInterval) : Nat → Int → Nat × Int
  | 0, power => (0, power)
  | tries + 1, power =>
    match interval.decimalAt? power with
    | some digits => (digits, power)
    | none => interval.shortestFrom tries (power - 1)

/-- A decimal without the zeros at the end of its digits. -/
def trimZeros : Nat → Nat → Int → Nat × Int
  | 0, digits, power => (digits, power)
  | fuel + 1, digits, power =>
    if digits ≠ 0 && digits % 10 = 0 then trimZeros fuel (digits / 10) (power + 1)
    else (digits, power)

/-- The shortest decimal `digits * 10 ^ power` that is read back as a positive finite number. -/
def shortestDecimal (mantissa : Nat) (exponent : Int) : Nat × Int :=
  let interval := readingInterval mantissa exponent
  let start := decimalExponent interval.value interval.denominator 700 310
  let (digits, power) := interval.shortestFrom 18 start
  trimZeros 20 digits power

/-- Writes a decimal in positional notation; `exponent` is that of the first digit. -/
def positional (digits : List Char) (exponent : Int) : List Char :=
  match exponent with
  | .negSucc e => '0' :: '.' :: List.replicate e '0' ++ digits
  | .ofNat e =>
    let whole := digits.take (e + 1)
    let fraction := digits.drop (e + 1)
    whole ++ List.replicate (e + 1 - digits.length) '0' ++ '.' ::
      (if fraction.isEmpty then ['0'] else fraction)

def exponential (format : FloatFormat) (digits : List Char) (exponent : Int) : List Char :=
  let shown := Nat.toDigits 10 exponent.natAbs
  let fraction := digits.drop 1
  digits.take 1 ++ (if fraction.isEmpty then [] else '.' :: fraction) ++
    'e' :: (if exponent < 0 then '-' else '+') ::
      (List.replicate (format.exponentDigits - shown.length) '0' ++ shown)

/-- The digits of a finite number in a format. -/
def FloatFormat.finiteText (format : FloatFormat) (mantissa : Nat) (exponent : Int) :
    List Char :=
  if mantissa = 0 then ['0', '.', '0']
  else
    let (digits, power) := shortestDecimal mantissa exponent
    let shown := Nat.toDigits 10 digits
    let first : Int := power + shown.length - 1
    if format.leastPositional ≤ first && first < format.positionalEnd then positional shown first
    else exponential format shown first

/-- A number as text. -/
def FloatFormat.text (format : FloatFormat) : Binary64 → String
  | .nan => format.notANumber
  | .infinite negative => (if negative then "-" else "") ++ format.infinity
  | .finite negative mantissa exponent =>
    String.ofList ((if negative then ['-'] else []) ++ format.finiteText mantissa exponent)

/-- The format of the numbers of a configuration: positional below 10^16 and down to 10^-4, with at
least two digits in an exponent. -/
def plainFormat : FloatFormat := ⟨-4, 16, 2, "inf", "nan"⟩

end MemberDocs
