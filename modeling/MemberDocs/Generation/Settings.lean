import MemberDocs.Volume.Basic

/-! # Settings of a run

What a run reads and writes. Settings are checked twice: before front matter is looked for, and again
when it has been applied. Each check reports the first problem it finds.
-/

namespace MemberDocs.Generation

/-- What becomes of an input with a tag that has no rule. -/
inductive TagPolicy where
  /-- The run fails. -/
  | error
  /-- The input is skipped with a warning. -/
  | warn
deriving DecidableEq, Repr

def TagPolicy.name : TagPolicy → String
  | error => "error"
  | warn => "warn"

/-- The settings of a run. -/
structure Settings where
  inputs : List Path := []
  /-- The directory that the generated files are put into, or the one file that is generated. -/
  documentation : Option Path := none
  mergesFiles : Bool := false
  /-- The file that the merge is written to. -/
  output : Option Path := none
  policy : TagPolicy := .error
deriving DecidableEq, Repr

/-- What can be wrong with settings. -/
inductive Problem where
  | noDocumentation
  | noInputs
  | noOutput
  | severalInputs
deriving DecidableEq, Repr

def Problem.message : Problem → String
  | noDocumentation => "DocumentationPath must be specified"
  | noInputs => "InputXml cannot be empty"
  | noOutput => "OutputFile must be specified if input files are merged"
  | severalInputs =>
    "DocumentationPath must specify a directory if more than one input XML value is supplied"

namespace Settings

/-- What keeps a run from looking for front matter. -/
def inputProblem? (settings : Settings) : Option Problem :=
  if settings.documentation.isNone then some .noDocumentation
  else if settings.inputs.isEmpty then some .noInputs
  else none

/-- The documentation path is that of a file. -/
def documentationIsFile (settings : Settings) (volume : Volume) (directory : Location) : Bool :=
  match settings.documentation with
  | some path => volume.isFile directory path
  | none => false

/-- What keeps a run from writing, once front matter has been applied. -/
def outputProblem? (settings : Settings) (volume : Volume) (directory : Location) :
    Option Problem :=
  if settings.mergesFiles && settings.output.isNone then some .noOutput
  else if settings.documentationIsFile volume directory && settings.inputs.length ≠ 1 then
    some .severalInputs
  else none

end Settings

end MemberDocs.Generation
