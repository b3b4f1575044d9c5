import MemberDocs.Text.Quoted
import MemberDocs.Volume.Path

/-! # Volumes

The files and directories of a file system as a value. Every file can be read and written, and every
directory can be searched and changed; what is neither of the two, links among them, is left out, and
so are the limits that a system sets to the length of names and to the size of files. A path is
followed name by name, so that every name but the last has to be that of a directory, and two dots
lead back to the directory above. Each operation gives the volume after it, or the fault that stopped
it; only making a chain of directories can leave something behind when it fails.
-/

namespace MemberDocs

/-- What is at a location: a file that can be read and written, or a directory that can be searched and
changed. -/
inductive FileEntry where
  | file (content : List UInt8)
  | directory
deriving DecidableEq, Repr

/-- A file system: what is at the locations below its top directory, each listed once. -/
structure Volume where
  entries : List (Location × FileEntry)
deriving Repr

/-- Why a path is refused. -/
inductive FileReason where
  | missing
  | exists
  | notDirectory
  | isDirectory
deriving DecidableEq, Repr

def FileReason.number : FileReason → Nat
  | missing => 2
  | .exists => 17
  | notDirectory => 20
  | isDirectory => 21

def FileReason.text : FileReason → String
  | missing => "No such file or directory"
  | .exists => "File exists"
  | notDirectory => "Not a directory"
  | isDirectory => "Is a directory"

/-- What can go wrong with a path. -/
inductive FileFault where
  | refused (reason : FileReason) (path : String)
  /-- The path holds the null character. -/
  | nullInPath
  /-- There is no directory with documentation at the path. -/
  | noDocumentation (path : String)
deriving DecidableEq, Repr

def FileFault.message : FileFault → String
  | refused reason path =>
    "[Errno " ++ toString reason.number ++ "] " ++ reason.text ++ ": " ++ Text.quoted path
  | nullInPath => "embedded null byte"
  | noDocumentation path => "Documentation directory not found: " ++ path

namespace Volume

/-- What is at a location. The top directory is always there. -/
def get? (volume : Volume) (location : Location) : Option FileEntry :=
  if location.isEmpty then some .directory else volume.entries.lookup location

def put (volume : Volume) (location : Location) (entry : FileEntry) : Volume :=
  ⟨(location, entry) :: volume.entries.filter (·.1 ≠ location)⟩

/-- Removes what is at a location or below it. -/
def remove (volume : Volume) (location : Location) : Volume :=
  ⟨volume.entries.filter (!location.isPrefixOf ·.1)⟩

/-- The location that names lead to from a directory. -/
def follow (volume : Volume) (location : Location) : List String → Except FileReason Location
  | [] => .ok location
  | part :: parts =>
    if part = ".." then volume.follow location.dropLast parts
    else
      match volume.get? (location ++ [part]) with
      | none => .error .missing
      | some .directory => volume.follow (location ++ [part]) parts
      | some (.file _) => if parts.isEmpty then .ok (location ++ [part]) else .error .notDirectory

/-- The location that a path starts at. -/
def startOf (directory : Location) (path : Path) : Location :=
  match path.anchor with
  | .relative => directory
  | _ => []

/-- The location that a path leads to. -/
def locate (volume : Volume) (directory : Location) (path : Path) :
    Except FileReason Location :=
  volume.follow (startOf directory path) path.parts

/-- What a path leads to, if it leads anywhere. -/
def status (volume : Volume) (directory : Location) (path : Path) : Option FileEntry :=
  if path.hasNull then none
  else
    match volume.locate directory path with
    | .ok location => volume.get? location
    | .error _ => none

/-- The path leads somewhere. -/
def hasPath (volume : Volume) (directory : Location) (path : Path) : Bool :=
  (volume.status directory path).isSome

/-- The path leads to a file. -/
def isFile (volume : Volume) (directory : Location) (path : Path) : Bool :=
  match volume.status directory path with
  | some (.file _) => true
  | _ => false

/-- The path leads to a directory. -/
def isDirectory (volume : Volume) (directory : Location) (path : Path) : Bool :=
  volume.status directory path = some .directory

/-- The content of the file that a path leads to. -/
def read (volume : Volume) (directory : Location) (path : Path) :
    Except FileFault (List UInt8) :=
  if path.hasNull then .error .nullInPath
  else
    match volume.locate directory path with
    | .error reason => .error (.refused reason path.text)
    | .ok location =>
      match volume.get? location with
      | some (.file content) => .ok content
      | some .directory => .error (.refused .isDirectory path.text)
      | none => .error (.refused .missing path.text)

/-- The location that a path names, which need not be there; the directory that it is in has to. -/
def target (volume : Volume) (directory : Location) (path : Path) :
    Except FileReason Location :=
  match path.parts.getLast? with
  | none => .ok (startOf directory path)
  | some name =>
    if name = ".." then volume.locate directory path
    else
      match volume.follow (startOf directory path) path.parts.dropLast with
      | .error reason => .error reason
      | .ok location =>
        if volume.get? location = some .directory then .ok (location ++ [name])
        else .error .notDirectory

/-- Writes a file, over the one that is there or as a new one. -/
def write (volume : Volume) (directory : Location) (path : Path) (content : List UInt8) :
    Except FileFault Volume :=
  if path.hasNull then .error .nullInPath
  else
    match volume.target directory path with
    | .error reason => .error (.refused reason path.text)
    | .ok location =>
      if volume.get? location = some .directory then .error (.refused .isDirectory path.text)
      else .ok (volume.put location (.file content))

/-- Makes a directory, where nothing may be yet. -/
def makeDirectory (volume : Volume) (directory : Location) (path : Path) :
    Except FileReason Volume :=
  match volume.target directory path with
  | .error reason => .error reason
  | .ok location =>
    match volume.get? location with
    | some _ => .error .exists
    | none => .ok (volume.put location .directory)

/-- Makes a directory, unless it is there already. -/
def ensureDirectory (volume : Volume) (directory : Location) (path : Path) :
    Volume × Option FileFault :=
  match volume.makeDirectory directory path with
  | .ok made => (made, none)
  | .error reason =>
    if reason ≠ .missing && volume.isDirectory directory path then (volume, none)
    else (volume, some (.refused reason path.text))

/-- Makes a directory and those above it, as far as they are not there; `names` are the names of the
path from the last to the first. -/
def ensureChain (volume : Volume) (directory : Location) (anchor : Anchor) :
    List String → Volume × Option FileFault
  | [] => (volume, none)
  | name :: above =>
    let path : Path := ⟨anchor, (name :: above).reverse⟩
    match volume.makeDirectory directory path with
    | .error .missing =>
      match volume.ensureChain directory anchor above with
      | (made, some fault) => (made, some fault)
      | (made, none) => made.ensureDirectory directory path
    | _ => volume.ensureDirectory directory path

/-- Makes the directory that a path names, with those above it. -/
def ensureDirectories (volume : Volume) (directory : Location) (path : Path) :
    Volume × Option FileFault :=
  if path.hasNull then (volume, some .nullInPath)
  else volume.ensureChain directory path.anchor path.parts.reverse

/-- The names that lead from a location to the files below it, with their contents. -/
def filesBelow (volume : Volume) (location : Location) : List (List String × List UInt8) :=
  volume.entries.filterMap fun entry =>
    match entry.2 with
    | .file content =>
      if location.isPrefixOf entry.1 then some (entry.1.drop location.length, content) else none
    | .directory => none

end Volume

end MemberDocs
