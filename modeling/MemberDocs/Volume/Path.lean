/-! # Paths

A path is an anchor and the names that lead on from it. Empty names and single dots are left out when
a path is read; two dots are kept, because what they mean depends on the directories. A path that is
looked up without the directories is `normalise`d: two dots cancel the name before them.
-/

namespace MemberDocs

/-- Where a path starts. -/
inductive Anchor where
  /-- At the working directory. -/
  | relative
  /-- At the top directory. -/
  | top
  /-- At the top directory, written with two slashes. -/
  | doubleTop
deriving DecidableEq, Repr

def Anchor.text : Anchor → String
  | relative => ""
  | top => "/"
  | doubleTop => "//"

/-- A path. -/
structure Path where
  anchor : Anchor
  parts : List String
deriving DecidableEq, Repr

/-- The names from the top directory down to a file or a directory. -/
abbrev Location := List String

/-- The parts of a text between slashes. -/
def splitSlashes : List Char → List (List Char)
  | [] => [[]]
  | c :: rest =>
    if c = '/' then [] :: splitSlashes rest
    else
      match splitSlashes rest with
      | [] => [[c]]
      | part :: parts => (c :: part) :: parts

/-- The anchor that a text starts with. Only two slashes exactly make the double one. -/
def Anchor.ofChars : List Char → Anchor
  | '/' :: '/' :: '/' :: _ => top
  | '/' :: '/' :: _ => doubleTop
  | '/' :: _ => top
  | _ => relative

namespace Path

def ofString (s : String) : Path :=
  let parts := (splitSlashes s.toList).filter fun part => part ≠ [] && part ≠ ['.']
  ⟨Anchor.ofChars s.toList, parts.map String.ofList⟩

/-- A path as text. The path without an anchor and without names is a dot. -/
def text (path : Path) : String :=
  if path.anchor = .relative && path.parts.isEmpty then "."
  else path.anchor.text ++ String.intercalate "/" path.parts

/-- The path that `second` means when it is read from `first` on. -/
def join (first second : Path) : Path :=
  match second.anchor with
  | .relative => ⟨first.anchor, first.parts ++ second.parts⟩
  | _ => second

/-- The path of a file in a directory. -/
def child (path : Path) (name : String) : Path :=
  ⟨path.anchor, path.parts ++ [name]⟩

/-- The path without its last name. -/
def parent (path : Path) : Path :=
  ⟨path.anchor, path.parts.dropLast⟩

/-- The last name, if there is one. -/
def name (path : Path) : String :=
  path.parts.getLastD ""

/-- The last name without its suffix. A name has no suffix if its last dot is its first or its last
character. -/
def stem (path : Path) : String :=
  let reversed := path.name.toList.reverse
  let suffix := reversed.takeWhile (· ≠ '.')
  match reversed.dropWhile (· ≠ '.') with
  | '.' :: before => if before.isEmpty || suffix.isEmpty then path.name
      else String.ofList before.reverse
  | _ => path.name

/-- A path holds the null character, which no file system accepts. -/
def hasNull (path : Path) : Bool :=
  path.parts.any (·.toList.contains '\x00')

/-- The path of a location. -/
def ofLocation (location : Location) : Path := ⟨.top, location⟩

end Path

/-- The location that names lead to from another one, if two dots cancel the name before them. At
the top they lead nowhere else. -/
def normalise (location : Location) : List String → Location
  | [] => location
  | part :: parts =>
    if part = ".." then normalise location.dropLast parts
    else normalise (location ++ [part]) parts

/-- The location that a path means, as far as its text tells. -/
def Path.resolve (directory : Location) (path : Path) : Location :=
  match path.anchor with
  | .relative => normalise directory path.parts
  | _ => normalise [] path.parts

/-- The path from the top directory on, as far as its text tells. -/
def Path.absolute (directory : Location) (path : Path) : Path :=
  match path.anchor with
  | .doubleTop => ⟨.doubleTop, path.resolve directory⟩
  | _ => .ofLocation (path.resolve directory)

/-- The path as it is seen from a directory: without the way to the directory if it leads there or
below. -/
def Path.seenFrom (directory : Location) (path : Path) : Path :=
  let location := path.resolve directory
  if directory.isPrefixOf location then ⟨.relative, location.drop directory.length⟩ else path

end MemberDocs
