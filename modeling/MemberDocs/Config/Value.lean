import MemberDocs.Text.Blank
import MemberDocs.Yaml.Data

/-! # Values of settings

How the values of a YAML text are read as settings. A flag is a truth value or a word for one, an
option is a word, and a path is a text or a number that is written as one.
-/

namespace MemberDocs.Yaml

/-- A word without blanks around it, in lower case. -/
def settingWord (s : String) : String :=
  Text.lower (Text.strip s)

/-- The value as a flag. -/
def Object.flag? : Object → Option Bool
  | .scalar (.bool b) => some b
  | .scalar (.str s) =>
    let word := settingWord s
    if ["true", "yes", "1"].contains word then some true
    else if ["false", "no", "0"].contains word then some false
    else none
  | _ => none

/-- The value as a word. -/
def Object.word? : Object → Option String
  | .scalar (.str s) => some (settingWord s)
  | _ => none

/-- A scalar as text; an integer may be too long for that. -/
def Scalar.text (value : Scalar) : Except Fault String :=
  match value.text? with
  | some text => .ok text
  | none => .error (.scalar .tooLongToWrite)

/-- The value as the text of a path. A truth value is none. -/
def Object.pathText (object : Object) : Except Fault (Option String) :=
  match object with
  | .scalar (.bool _) => .ok none
  | .scalar value =>
    match value with
    | .str _ | .int _ | .float _ | .noNumber _ => value.text.map some
    | _ => .ok none
  | _ => .ok none

/-- The texts of the items of a list that are texts, numbers or truth values. -/
def itemTexts : List Object → Except Fault (List String)
  | [] => .ok []
  | .scalar value :: rest =>
    match value with
    | .str _ | .int _ | .bool _ | .float _ | .noNumber _ => do
      let text ← value.text
      let texts ← itemTexts rest
      .ok (text :: texts)
    | _ => itemTexts rest
  | _ :: rest => itemTexts rest

/-- The value as a list of paths: a text is a list of one, and bytes are a list of numbers. -/
def Data.pathTexts (data : Data) (object : Object) : Except Fault (List String) :=
  match object with
  | .scalar (.str s) => .ok [s]
  | .scalar (.bytes bytes) => .ok (bytes.map fun b => toString b.toNat)
  | .list items => itemTexts (items.map data.object)
  | _ => .ok []

end MemberDocs.Yaml
