import MemberDocs.Text.Blank
import MemberDocs.Text.LineBreak

/-! # Code blocks

Code is shown with the indentation of its first line cut to four columns, so that an example keeps
its shape wherever it stood in the source file.
-/

namespace MemberDocs.Markdown

/-- How many spaces a line starts with. -/
def indentation (line : List Char) : Nat :=
  (line.takeWhile (· = ' ')).length

/-- The lines with as many characters cut off the front of each as the first line is indented
beyond four columns. -/
def dedent : List (List Char) → List (List Char)
  | [] => []
  | first :: rest => (first :: rest).map (List.drop (indentation first - 4))

/-- Code as it is shown: empty lines are dropped, the indentation is cut (`dedent`) and blanks at
the end are cut off. A text of empty lines only is left as it is. -/
def codeBlock (text : String) : String :=
  match (Text.linesOfChars text.toList).filter (!·.isEmpty) with
  | [] => text
  | kept => String.ofList (Text.stripEndChars (Text.joinLineChars (dedent kept)))

end MemberDocs.Markdown
