import MemberDocs.Doc.Node

/-! # Places in a source

Where a part of a source ends, given where it starts. LF, CR and CRLF each end a line; every other
character takes one column.
-/

namespace MemberDocs

/-- The place of the first character of a source. -/
def Position.start : Position := ⟨1, 1⟩

/-- The place after one character; `rest` follows it. A CR before an LF takes no room, so that the
two end one line together. -/
def Position.step (position : Position) (c : Char) (rest : List Char) : Position :=
  if c = '\n' then ⟨position.line + 1, 1⟩
  else if c = '\r' then
    match rest with
    | '\n' :: _ => position
    | _ => ⟨position.line + 1, 1⟩
  else ⟨position.line, position.column + 1⟩

/-- The place after some characters. -/
def Position.after (position : Position) : List Char → Position
  | [] => position
  | c :: rest => (position.step c rest).after rest

end MemberDocs
