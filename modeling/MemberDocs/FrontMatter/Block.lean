import MemberDocs.Text.LineBreak
import MemberDocs.Text.Utf8

/-! # Blocks of front matter

A file has front matter if its first line starts with three hyphens. The block goes up to the next
line that does, or to the end of the file; that line and everything after it count for nothing. Bytes
that are no text do not keep a block from being read.
-/

namespace MemberDocs.FrontMatter

/-- A block: its opening line and the lines up to the closing one. -/
structure Block where
  content : String
  /-- No line follows the opening one. -/
  isEmpty : Bool
deriving DecidableEq, Repr

/-- The line opens or closes a block. -/
def isDelimiter (line : List Char) : Bool :=
  "---".toList.isPrefixOf line

/-- The lines of a file: a line break at the end does not start one more. -/
def fileLines (text : List Char) : List (List Char) :=
  let pieces := Text.linesOfChars text
  if pieces.getLast? = some [] then pieces.dropLast else pieces

/-- The block at the front of some lines. -/
def Block.ofLines? : List (List Char) → Option Block
  | [] => none
  | first :: rest =>
    if isDelimiter first then
      let lines := rest.takeWhile (!isDelimiter ·)
      some ⟨String.ofList (Text.joinLineChars (first :: lines)), lines.isEmpty⟩
    else none

/-- The block at the front of a file, of which a byte order mark is no part. -/
def Block.ofBytes? (bytes : List UInt8) : Option Block :=
  let text := Text.decodeUtf8Lenient (Text.dropByteOrderMark bytes)
  Block.ofLines? (fileLines (Text.unifyChars text))

end MemberDocs.FrontMatter
