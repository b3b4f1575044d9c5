import MemberDocs.Number.Timestamp

/-! # Tags

A tag says what a value is. The tag of a plain scalar without one is found by its text
(`Tag.ofPlain`): words for nothing and for truth values, the notations of numbers, and timestamps;
everything else is a string.
-/

namespace MemberDocs.Yaml

/-- The kinds of values that the standard tags name. -/
inductive Tag where
  | null
  | bool
  | int
  | float
  | binary
  | timestamp
  | omap
  | pairs
  | set
  | str
  | seq
  | map
  | merge
  | value
  | other (name : String)
deriving DecidableEq, Repr, Inhabited

/-- The part that the names of the standard tags begin with. -/
def standardLeading : String := "tag:yaml.org,2002:"

/-- The standard tags by their names. -/
def standardTags : List (String × Tag) :=
  [("null", .null), ("bool", .bool), ("int", .int), ("float", .float), ("binary", .binary),
   ("timestamp", .timestamp), ("omap", .omap), ("pairs", .pairs), ("set", .set), ("str", .str),
   ("seq", .seq), ("map", .map), ("merge", .merge), ("value", .value)]

/-- The tag with a full name. -/
def Tag.ofName (name : String) : Tag :=
  match standardTags.find? fun entry => standardLeading ++ entry.1 = name with
  | some entry => entry.2
  | none => .other name

namespace Notation

/-- What follows a sign in front, if there is one. -/
def dropSign : List Char → List Char
  | '-' :: rest => rest
  | '+' :: rest => rest
  | cs => cs

/-- A digit or an underscore. -/
def isSpacedDigit (c : Char) : Bool :=
  c.isDigit || c = '_'

/-- At least one character, all of them of a class. -/
def isRun (p : Char → Bool) (cs : List Char) : Bool :=
  !cs.isEmpty && cs.all p

/-- A number of base sixty after the first: a digit, or two of which the first is at most five. -/
def isSixtieth (cs : List Char) : Bool :=
  match cs with
  | [a] => a.isDigit
  | [a, b] => '0' ≤ a && a ≤ '5' && b.isDigit
  | _ => false

/-- The parts between colons. -/
def colonParts : List Char → List (List Char)
  | [] => [[]]
  | c :: rest =>
    if c = ':' then [] :: colonParts rest
    else
      match colonParts rest with
      | [] => [[c]]
      | part :: parts => (c :: part) :: parts

/-- A number that does not start with zero, with underscores between its digits. -/
def isCounting (cs : List Char) : Bool :=
  match cs with
  | c :: rest => c.isDigit && c ≠ '0' && rest.all isSpacedDigit
  | [] => false

/-- An integer: in base two, eight, ten, sixteen or sixty. -/
def isInt (cs : List Char) : Bool :=
  match dropSign cs with
  | ['0'] => true
  | '0' :: 'b' :: rest => isRun (fun c => c = '0' || c = '1' || c = '_') rest
  | '0' :: 'x' :: rest => isRun (fun c => c.isDigit || ('a' ≤ c && c ≤ 'f') || ('A' ≤ c && c ≤ 'F')
      || c = '_') rest
  | '0' :: rest => isRun (fun c => ('0' ≤ c && c ≤ '7') || c = '_') rest
  | cs =>
    isCounting cs ||
      match colonParts cs with
      | first :: second :: more => isCounting first && (second :: more).all isSixtieth
      | _ => false

/-- An exponent with its sign, or nothing. -/
def isExponent (cs : List Char) : Bool :=
  match cs with
  | [] => true
  | mark :: sign :: digits =>
    (mark = 'e' || mark = 'E') && (sign = '+' || sign = '-') && isRun Char.isDigit digits
  | [_] => false

/-- A decimal fraction: digits, a point, and more digits, with an exponent or without. -/
def isFraction (cs : List Char) : Bool :=
  match cs.dropWhile isSpacedDigit with
  | '.' :: rest => startsWithDigit cs && isExponent (rest.dropWhile isSpacedDigit)
  | _ => false
where
  startsWithDigit : List Char → Bool
    | c :: _ => c.isDigit
    | [] => false

/-- A decimal fraction that starts with its point; it has no sign. -/
def isPointFraction (cs : List Char) : Bool :=
  match cs with
  | '.' :: c :: rest => c.isDigit && isExponent (rest.dropWhile isSpacedDigit)
  | _ => false

/-- A number in base sixty whose last part has a point. -/
def isSixtyFraction (cs : List Char) : Bool :=
  match colonParts cs with
  | [] | [_] => false
  | first :: more =>
    let last := more.getLastD []
    let fraction := last.dropWhile (· ≠ '.')
    let isFirst :=
      match first with
      | c :: rest => c.isDigit && rest.all isSpacedDigit
      | [] => false
    isFirst && more.dropLast.all isSixtieth && isSixtieth (last.takeWhile (· ≠ '.')) &&
      !fraction.isEmpty && (fraction.drop 1).all isSpacedDigit

/-- A floating point number, infinity, or no number. -/
def isFloat (cs : List Char) : Bool :=
  let unsigned := dropSign cs
  isFraction unsigned || isPointFraction cs || isSixtyFraction unsigned ||
    [".inf", ".Inf", ".INF"].any (·.toList = unsigned) ||
    [".nan", ".NaN", ".NAN"].any (·.toList = cs)

/-- The words for truth values. -/
def boolWords : List String :=
  ["yes", "Yes", "YES", "no", "No", "NO", "true", "True", "TRUE", "false", "False", "FALSE",
   "on", "On", "ON", "off", "Off", "OFF"]

/-- The words for nothing. -/
def nullWords : List String := ["", "~", "null", "Null", "NULL"]

/-- A timestamp. A date alone has its month and its day written with two digits. -/
def isTimestamp (cs : List Char) : Bool :=
  match TimestampFields.ofChars? cs with
  | some fields => fields.isPadded || fields.time.isSome
  | none => false

/-- A text in one of the notations of YAML itself, which stands for no value. -/
def isReserved (cs : List Char) : Bool :=
  cs = ['!'] || cs = ['&'] || cs = ['*']

/-- The text without one line feed at its end. -/
def dropFinalBreak (cs : List Char) : List Char :=
  if cs.getLast? = some '\n' then cs.dropLast else cs

end Notation

open Notation in
/-- The tag of a plain scalar with a text. A line feed at the end of a text that is not empty does
not change what it is. -/
def Tag.ofPlain (text : String) : Tag :=
  let cs := dropFinalBreak text.toList
  let word := String.ofList cs
  if boolWords.contains word then .bool
  else if isFloat cs then .float
  else if isInt cs then .int
  else if word = "<<" then .merge
  else if text = "" || (word ≠ "" && nullWords.contains word) then .null
  else if isTimestamp cs then .timestamp
  else if word = "=" then .value
  else if isReserved cs then .other (standardLeading ++ "yaml")
  else .str

end MemberDocs.Yaml
