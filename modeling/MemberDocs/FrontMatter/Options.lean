import MemberDocs.Config.Value

/-! # Options in front matter

The settings that a block of front matter carries: whether the generated files are merged, and
whether tags without a rule are allowed. Other keys are passed over, and named for the log.
-/

namespace MemberDocs.FrontMatter

/-- Which tags without a rule are allowed. -/
inductive AllowedTags where
  | everyTag
  | knownTags
deriving DecidableEq, Repr

def AllowedTags.name : AllowedTags → String
  | everyTag => "All"
  | knownTags => "None"

/-- The choice that a value names, in any case. -/
def AllowedTags.ofObject? (object : Yaml.Object) : Option AllowedTags :=
  match object.word? with
  | none => none
  | some word =>
    if word = "all" then some everyTag
    else if word = "none" then some knownTags
    else none

/-- The settings of a block. -/
structure Options where
  mergeXmlComments : Bool := false
  allowedTags : Option AllowedTags := none
deriving DecidableEq, Repr

def mergeKey : String := "MergeXmlComments"

def allowedTagsKey : String := "AllowedCustomTags"

/-- Why a block is refused. -/
inductive OptionsError where
  /-- The block is no YAML. -/
  | malformed (reason : Yaml.Refusal)
  | notMapping
  /-- A value of the block cannot be read. -/
  | badScalar (fault : Yaml.ScalarFault)
deriving DecidableEq, Repr

def OptionsError.message : OptionsError → String
  | malformed reason => "Failed to parse front matter: " ++ (Yaml.Fault.refused reason).message
  | notMapping => "Front matter must contain a mapping"
  | badScalar fault => fault.message

/-- A fault of the text of a block. -/
def OptionsError.ofFault : Yaml.Fault → OptionsError
  | .refused reason => malformed reason
  | .scalar fault => badScalar fault

/-- The keys of a mapping that are no settings, as texts in their order. -/
def unknownKeys (entries : List Yaml.Entry) : Except OptionsError (List String) :=
  let unknown := entries.filter fun entry =>
    entry.key ≠ .str mergeKey && entry.key ≠ .str allowedTagsKey
  match unknown.mapM fun entry => entry.key.text with
  | .ok texts => .ok (texts.mergeSort fun a b => !decide (b < a))
  | .error fault => .error (.ofFault fault)

/-- The settings of a block, and the keys that are none. -/
def Options.ofText (content : String) : Except OptionsError (Options × List String) := do
  let data ← (Yaml.Data.ofText content.toList).mapError OptionsError.ofFault
  match data.rootObject with
  | .scalar .null => .ok ({}, [])
  | .dict entries =>
    let unknown ← unknownKeys entries
    .ok ({ mergeXmlComments := ((data.valueOf entries mergeKey).flag?).getD false
           allowedTags := AllowedTags.ofObject? (data.valueOf entries allowedTagsKey) }, unknown)
  | _ => .error .notMapping

end MemberDocs.FrontMatter
