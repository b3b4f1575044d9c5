import MemberDocs.Number.Timestamp
import MemberDocs.Text.Quoted

/-! # Faults of YAML texts

A text can be refused as YAML (`Refusal`): it is then reported without its details. A text that is
YAML can still hold a scalar that its tag cannot read (`ScalarFault`), and each of these faults has
its own wording.
-/

namespace MemberDocs.Yaml

/-- Why a text is refused as YAML, or as data of the standard tags. -/
inductive Refusal where
  | forbiddenCharacter
  | badToken
  | keyWithoutValue
  | misplacedIndicator
  | badDirective
  | badGrammar
  | undefinedHandle
  | undefinedAlias
  | repeatedAnchor
  | severalDocuments
  | unknownTag
  | wrongContent
  | badKey
  | badMerge
  | badBinary
deriving DecidableEq, Repr

/-- Why a scalar cannot be read as its tag demands. -/
inductive ScalarFault where
  /-- The text is no integer in the base. -/
  | notInteger (base : Nat) (text : String)
  /-- The text is no floating point number. -/
  | notFloat (text : String)
  /-- A number needs a character at least. -/
  | emptyNumber
  /-- An integer is too long to be read. -/
  | tooManyDigits (digits : Nat)
  /-- An integer is too long to be written. -/
  | tooLongToWrite
  /-- The weight of a part of a number in base sixty is beyond every finite number. -/
  | weightTooLarge
  /-- The text is no truth value. -/
  | notBoolean (text : String)
  /-- The text is no timestamp. -/
  | notTimestamp
  /-- A mapping stands where the text of a timestamp has to. -/
  | timestampOfMapping
  | calendar (fault : CalendarFault)
  /-- An escape names a number that no character has. -/
  | noCharacter (code : Nat)
deriving DecidableEq, Repr

/-- What can be wrong with a YAML text. -/
inductive Fault where
  | refused (reason : Refusal)
  | scalar (fault : ScalarFault)
deriving DecidableEq, Repr

/-- The text of a value inside a message, cut after 200 characters. -/
def briefly (s : String) : String :=
  String.ofList ((Text.quoted s).toList.take 200)

/-- The least number that does not fit into 32 bits with a sign. -/
def wordLimit : Nat := Nat.pow 2 31

def ScalarFault.message : ScalarFault → String
  | notInteger base text =>
    "invalid literal for int() with base " ++ toString base ++ ": " ++ briefly text
  | notFloat text => "could not convert string to float: " ++ Text.quoted text
  | emptyNumber => "string index out of range"
  | tooManyDigits digits =>
    "Exceeds the limit (4300 digits) for integer string conversion: value has " ++
      toString digits ++ " digits; use sys.set_int_max_str_digits() to increase the limit"
  | tooLongToWrite =>
    "Exceeds the limit (4300 digits) for integer string conversion; " ++
      "use sys.set_int_max_str_digits() to increase the limit"
  | weightTooLarge => "int too large to convert to float"
  | notBoolean text => Text.quoted text
  | notTimestamp => "'NoneType' object has no attribute 'groupdict'"
  | timestampOfMapping => "expected string or bytes-like object, got 'list'"
  | calendar fault => fault.message
  | noCharacter code =>
    if code < wordLimit then "chr() arg not in range(0x110000)"
    else "Python int too large to convert to C int"

/-- The wording of a fault. The details of a refusal are left out. -/
def Fault.message : Fault → String
  | refused _ => "<yaml error>"
  | scalar fault => fault.message

end MemberDocs.Yaml
