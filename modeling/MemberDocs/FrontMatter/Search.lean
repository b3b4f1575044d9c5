import MemberDocs.Collection.Discovery
import MemberDocs.FrontMatter.Block

/-! # The search for front matter

The front matter of a documentation path is the first block that is not empty among those of its
Markdown files, in their order.
-/

namespace MemberDocs.FrontMatter

/-- The block of the file that a path leads to, if it has one. -/
def readBlock (volume : Volume) (directory : Location) (path : Path) :
    Except FileFault (Option Block) :=
  (volume.read directory path).map Block.ofBytes?

/-- The first file of a list whose block is not empty. -/
def findBlockAmong (volume : Volume) (directory : Location) :
    List Path → Except FileFault (Option (Path × Block))
  | [] => .ok none
  | path :: paths => do
    match ← readBlock volume directory path with
    | some block =>
      if block.isEmpty then findBlockAmong volume directory paths else .ok (some (path, block))
    | none => findBlockAmong volume directory paths

/-- The front matter of a documentation path; a path that leads nowhere has none. -/
def findBlock (volume : Volume) (directory : Location) (path : Path) :
    Except FileFault (Option (Path × Block)) :=
  if volume.hasPath directory path then do
    let files ← Collection.discover volume directory path
    findBlockAmong volume directory files
  else .ok none

end MemberDocs.FrontMatter
