import MemberDocs.Config.Value
import MemberDocs.Generation.Settings
import MemberDocs.Text.LineBreak
import MemberDocs.Text.Utf8

/-! # The configuration file

Settings that a project keeps in a file of its own. A path that leads to a directory means the file
of the usual name in it, and a file that is not there means the settings without any choice. The
paths in the file start at its directory.
-/

namespace MemberDocs.Config

open Generation (Settings TagPolicy)

def fileName : String := ".xmldoc2md.yml"

/-- Where paths start: the working directory, and the home directories by the names of their owners.
The empty name stands for the present user. -/
structure Surroundings where
  directory : Location
  homes : List (String × String)

/-- Why a configuration cannot be loaded. -/
inductive LoadError where
  /-- The file is no YAML. -/
  | malformed (name : String) (reason : Yaml.Refusal)
  | notMapping
  /-- A value of the file cannot be read. -/
  | badScalar (fault : Yaml.ScalarFault)
  /-- The file is not text. -/
  | notText (error : Text.Utf8Error)
  | file (fault : FileFault)
  /-- The path starts at the home directory of nobody. -/
  | noHome
deriving DecidableEq, Repr

def LoadError.message : LoadError → String
  | malformed name reason => "Failed to parse " ++ name ++ ": " ++ (Yaml.Fault.refused reason).message
  | notMapping => fileName ++ " must contain a mapping at the root"
  | badScalar fault => fault.message
  | notText error => error.message
  | file fault => fault.message
  | noHome => "Could not determine home directory."

/-- A fault of the text of a file. -/
def LoadError.ofFault (name : String) : Yaml.Fault → LoadError
  | .refused reason => malformed name reason
  | .scalar fault => badScalar fault

/-- The path with the home directory in place of a tilde at its front. -/
def expandHome (surroundings : Surroundings) (path : Path) : Except LoadError Path :=
  match path.anchor, path.parts with
  | .relative, part :: parts =>
    match part.toList with
    | '~' :: owner =>
      match surroundings.homes.lookup (String.ofList owner) with
      | some home => .ok ((Path.ofString home).join ⟨.relative, parts⟩)
      | none => .error .noHome
    | _ => .ok path
  | _, _ => .ok path

/-- The location of the configuration that a path means. -/
def locate (surroundings : Surroundings) (volume : Volume) (path : Path) :
    Except LoadError Location := do
  let path ← expandHome surroundings path
  if path.hasNull then .error (.file .nullInPath)
  else
    let isDirectory := volume.isDirectory surroundings.directory path
    let path := if isDirectory then path.child fileName else path
    .ok (path.resolve surroundings.directory)

/-- The path that a value names, from a directory on; an empty text names none. -/
def pathUnder (root : Path) : Option String → Option Path
  | none => none
  | some text => if text.isEmpty then none else some (root.join (Path.ofString text))

/-- The settings in the pairs of a configuration whose paths start at `root`. -/
def settingsOf (root : Path) (data : Yaml.Data) (entries : List Yaml.Entry) :
    Except Yaml.Fault Settings := do
  let documentation ← (data.valueOf entries "documentation_path").pathText
  let output ← (data.valueOf entries "output_file").pathText
  let warns := (data.valueOf entries "warn_on_unexpected_tag").flag?
  let inputs ← data.pathTexts (data.valueOf entries "inputs")
  .ok {
    inputs := inputs.map fun input => root.join (Path.ofString input)
    documentation := pathUnder root documentation
    mergesFiles := ((data.valueOf entries "merge_files").flag?).getD false
    output := pathUnder root output
    policy := if warns = some true then .warn else .error }

/-- The settings in the text of a configuration file; a blank text, or one that holds nothing, makes
no choice. -/
def settingsOfText (root : Path) (name : String) (text : List Char) :
    Except LoadError Settings :=
  if text.all Text.isBlank then .ok {}
  else
    match Yaml.Data.ofText text with
    | .error fault => .error (.ofFault name fault)
    | .ok data =>
      match data.rootObject with
      | .scalar .null => .ok {}
      | .dict entries => (settingsOf root data entries).mapError (.ofFault name)
      | _ => .error .notMapping

def load (surroundings : Surroundings) (volume : Volume) (path : Path) :
    Except LoadError Settings := do
  let location ← locate surroundings volume path
  let file := Path.ofLocation location
  if !volume.hasPath [] file then .ok {}
  else
    match volume.read [] file with
    | .error fault => .error (.file fault)
    | .ok bytes =>
      match Text.decodeUtf8 bytes with
      | .error error => .error (.notText error)
      | .ok text => settingsOfText file.parent file.name (Text.unifyChars text)

end MemberDocs.Config
