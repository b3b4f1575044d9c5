import MemberDocs.Number.Literal
import MemberDocs.Number.Shortest
import MemberDocs.Text.Base64
import MemberDocs.Text.Lowercase
import MemberDocs.Text.Quoted
import MemberDocs.Yaml.Fault
import MemberDocs.Yaml.Tag

/-! # Scalar values

What a scalar is, once its tag is known. `Scalar.ofText` reads the text of a scalar as its tag
demands, `Scalar.text?` shows a scalar as text, and `Scalar.same` tells when two keys of a mapping
are one key: numbers and truth values are compared by value, whatever their kind.
-/

namespace MemberDocs.Yaml

/-- A scalar value. -/
inductive Scalar where
  | null
  | bool (b : Bool)
  | int (n : Int)
  | float (x : Binary64)
  /-- A floating point result that is no number. The named one is one value; every other is a value
  of its own. -/
  | noNumber (named : Bool)
  | str (s : String)
  | bytes (bytes : List UInt8)
  | timestamp (t : Timestamp)
deriving DecidableEq, Repr, Inhabited

/-- A floating point result as a scalar. -/
def Scalar.ofFloat : Binary64 → Scalar
  | .nan => .noNumber false
  | x => .float x

/-- The words for truth values, in lower case. -/
def truthValues : List (String × Bool) :=
  [("yes", true), ("no", false), ("true", true), ("false", false), ("on", true), ("off", false)]

def readBool (text : String) : Except Fault Scalar :=
  let word := Text.lower text
  match truthValues.lookup word with
  | some b => .ok (.bool b)
  | none => .error (.scalar (.notBoolean word))

def readBased (base : Nat) (cs : List Char) : Except Fault Int :=
  match readInt base cs with
  | .ok n => .ok n
  | .error .malformed => .error (.scalar (.notInteger base (String.ofList cs)))
  | .error (.tooLong digits) => .error (.scalar (.tooManyDigits digits))

/-- The number whose digits in base sixty are given, the highest first. -/
def sixtyValue (parts : List Int) : Int :=
  parts.foldl (fun n part => n * 60 + part) 0

def readUnsigned (cs : List Char) : Except Fault Int :=
  match cs with
  | [] => .error (.scalar .emptyNumber)
  | ['0'] => .ok 0
  | '0' :: 'b' :: rest => readBased 2 rest
  | '0' :: 'x' :: rest => readBased 16 rest
  | '0' :: rest => readBased 8 ('0' :: rest)
  | cs =>
    if cs.contains ':' then
      ((Notation.colonParts cs).mapM (readBased 10)).map sixtyValue
    else readBased 10 cs

/-- Parts a number from its sign; a number has a character at least. -/
def splitSign (cs : List Char) : Except Fault (Bool × List Char) :=
  if cs.isEmpty then .error (.scalar .emptyNumber) else .ok (takeSign cs)

/-- Reads an integer: in base ten, or with the mark of another base. Underscores do not count. -/
def readInteger (text : String) : Except Fault Scalar := do
  let (negative, cs) ← splitSign (text.toList.filter (· ≠ '_'))
  let n ← readUnsigned cs
  .ok (.int (if negative then -n else n))

def readReal (cs : List Char) : Except Fault Binary64 :=
  match readFloat cs with
  | .ok x => .ok x
  | .error _ => .error (.scalar (.notFloat (String.ofList cs)))

/-- Adds up the parts of a number in base sixty, the lowest first; `weight` is that of the next
part. -/
def addSixtieths (sum : Binary64) (weight : Nat) : List Binary64 → Except Fault Binary64
  | [] => .ok sum
  | part :: parts =>
    match Binary64.ofInt weight with
    | .infinite _ => .error (.scalar .weightTooLarge)
    | factor => addSixtieths (sum.add (part.mul factor)) (weight * 60) parts

/-- Reads a floating point number, which may be in base sixty. Underscores and case do not count. -/
def readDecimal (text : String) : Except Fault Scalar := do
  let plain := (Text.lower (String.ofList (text.toList.filter (· ≠ '_')))).toList
  let (negative, cs) ← splitSign plain
  let signed (x : Binary64) : Scalar := .ofFloat (if negative then x.neg else x)
  if cs = ".inf".toList then .ok (signed (.infinite false))
  else if cs = ".nan".toList then .ok (.noNumber true)
  else if cs.contains ':' then
    let parts ← (Notation.colonParts cs).mapM readReal
    let sum ← addSixtieths .zero 1 parts.reverse
    .ok (signed sum)
  else
    let x ← readReal cs
    .ok (signed x)

/-- Reads bytes in base 64, from a text of ASCII. -/
def readBinary (text : String) : Except Fault Scalar :=
  if text.toList.all (·.toNat < 128) then
    match Text.ofBase64? text with
    | some bytes => .ok (.bytes bytes)
    | none => .error (.refused .badBinary)
  else .error (.refused .badBinary)

/-- Reads a timestamp. A line feed at its end does not count. -/
def readTimestamp (text : String) : Except Fault Scalar :=
  match TimestampFields.ofChars? (Notation.dropFinalBreak text.toList) with
  | none => .error (.scalar .notTimestamp)
  | some fields =>
    match fields.check with
    | .ok t => .ok (.timestamp t)
    | .error fault => .error (.scalar (.calendar fault))

/-- Reads a text as a tag demands; only the tags of scalars can be demanded. -/
def Scalar.ofText (tag : Tag) (text : String) : Except Fault Scalar :=
  match tag with
  | .null => .ok .null
  | .bool => readBool text
  | .int => readInteger text
  | .float => readDecimal text
  | .binary => readBinary text
  | .timestamp => readTimestamp text
  | .str => .ok (.str text)
  | _ => .error (.refused .unknownTag)

namespace Scalar

/-- The scalar as text; nothing for an integer that is too long to be written. -/
def text? : Scalar → Option String
  | null => some "None"
  | bool b => some (if b then "True" else "False")
  | int n => intText? n
  | float x => some (plainFormat.text x)
  | noNumber _ => some plainFormat.notANumber
  | str s => some s
  | bytes b => some (Text.quotedBytes b)
  | timestamp t => some t.text

/-- The value of a truth value or an integer. -/
def integer? : Scalar → Option Int
  | bool b => some (if b then 1 else 0)
  | int n => some n
  | _ => none

/-- Two scalars have the same value. -/
def same (a b : Scalar) : Bool :=
  match a, b with
  | float x, float y => x.sameValue y
  | noNumber m, noNumber n => m && n
  | timestamp s, timestamp t => s.same t
  | float x, b =>
    match b.integer? with
    | some n => x.equalsInt n
    | none => false
  | a, float y =>
    match a.integer? with
    | some n => y.equalsInt n
    | none => false
  | a, b =>
    match a.integer?, b.integer? with
    | some m, some n => m = n
    | none, none => a = b
    | _, _ => false

end Scalar

end MemberDocs.Yaml
