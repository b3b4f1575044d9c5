import MemberDocs.Volume.Basic

/-! # Discovery

The Markdown files of a documentation path: a file is the only one, whatever its name, and below a
directory they are all the files whose names end in `.md`, hidden ones too. They are put in the order
of their names, compared directory by directory.
-/

namespace MemberDocs.Collection

/-- The name is that of a Markdown file. -/
def isMarkdownName (name : String) : Bool :=
  ".md".toList.isSuffixOf name.toList

/-- The names lead to a Markdown file. -/
def leadsToMarkdown (names : List String) : Bool :=
  match names.getLast? with
  | some name => isMarkdownName name
  | none => false

def isBefore : List String → List String → Bool
  | [], _ => true
  | _ :: _, [] => false
  | a :: as, b :: bs => if a = b then isBefore as bs else decide (a < b)

/-- The Markdown files below a directory that a path leads to, in their order. -/
def markdownBelow (volume : Volume) (location : Location) (path : Path) : List Path :=
  let names := ((volume.filesBelow location).map (·.1)).filter leadsToMarkdown
  (names.mergeSort isBefore).map fun names => ⟨path.anchor, path.parts ++ names⟩

/-- The Markdown files of a documentation path, which has to be there. -/
def discover (volume : Volume) (directory : Location) (path : Path) :
    Except FileFault (List Path) :=
  match volume.status directory path, volume.locate directory path with
  | some (.file _), _ => .ok [path]
  | some .directory, .ok location => .ok (markdownBelow volume location path)
  | _, _ => .error (.noDocumentation path.text)

end MemberDocs.Collection
