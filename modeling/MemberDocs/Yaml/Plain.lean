import MemberDocs.Yaml.Cursor

/-! # Plain scalars

A scalar without quotes. It goes on over gaps and over lines that are indented deeper than the block
around it, until a comment, a colon that ends a key, or a mark of a document. Line breaks inside are
folded (`foldBreaks`).
-/

namespace MemberDocs.Yaml

/-- The text that line breaks in a scalar stand for: a single line feed is a space, and of several
breaks the first is left out unless it is a separator. -/
def foldBreaks (first : Char) (others : List Char) : List Char :=
  if first ≠ '\n' then first :: others
  else if others.isEmpty then [' ']
  else others

/-- A sign that parts the items of a flow collection. -/
def isFlowSign (c : Char) : Bool :=
  c = ',' || c = '[' || c = ']' || c = '\x7b' || c = '\x7d'

/-- The characters of a plain scalar up to the next gap or sign. -/
def plainRun (inFlow : Bool) : List Char → List Char
  | [] => []
  | c :: rest =>
    if isGap c || (inFlow && (isFlowSign c || c = '?')) then []
    else if c = ':' && atEndOr (fun d => isGap d || (inFlow && isFlowSign d)) rest then []
    else c :: plainRun inFlow rest

/-- The line breaks and spaces that follow a first break, and whether they lead up to a mark of a
document. -/
def followingBreaks : Nat → Cursor → List Char × Bool × Cursor
  | 0, cursor => ([], false, cursor)
  | fuel + 1, cursor =>
    match cursor.lineBreak? with
    | some (c, after) =>
      if isDocumentBoundary after.rest then ([c], true, after)
      else
        let (breaks, atMark, last) := followingBreaks fuel after
        (c :: breaks, atMark, last)
    | none =>
      if startsWith (· = ' ') cursor.rest then followingBreaks fuel cursor.next
      else ([], false, cursor)

/-- What stands between two parts of a plain scalar. -/
structure PlainGap where
  /-- The text that the gap stands for; it is empty if the scalar ends here. -/
  text : List Char
  hasBreak : Bool
  cursor : Cursor

/-- The gap in front. -/
def plainGap (cursor : Cursor) : PlainGap :=
  let spaces := cursor.run (· = ' ')
  let cursor := cursor.skipSpaces
  match cursor.lineBreak? with
  | none => ⟨spaces, false, cursor⟩
  | some (c, after) =>
    if isDocumentBoundary after.rest then ⟨[], true, after⟩
    else
      let (breaks, atMark, last) := followingBreaks after.rest.length after
      ⟨if atMark then [] else foldBreaks c breaks, true, last⟩

/-- A scalar that has been read. -/
structure PlainScalar where
  text : List Char
  /-- The scalar is followed by a line break, so that a key may start after it. -/
  atLineStart : Bool
  cursor : Cursor

/-- Reads the parts of a plain scalar after its first one; lines have to start at `indent` or
deeper. -/
def plainTail (inFlow : Bool) (indent : Int) : Nat → Cursor → PlainScalar
  | 0, cursor => ⟨[], false, cursor⟩
  | fuel + 1, cursor =>
    let gap := plainGap cursor
    let part := plainRun inFlow gap.cursor.rest
    if gap.text.isEmpty || startsWith (· = '#') gap.cursor.rest ||
        (!inFlow && gap.cursor.column < indent) || part.isEmpty then
      ⟨[], gap.hasBreak, gap.cursor⟩
    else
      let tail := plainTail inFlow indent fuel (gap.cursor.skip part.length)
      { tail with text := gap.text ++ part ++ tail.text }

def readPlain (inFlow : Bool) (indent : Int) (cursor : Cursor) : PlainScalar :=
  let part := plainRun inFlow cursor.rest
  let tail := plainTail inFlow indent cursor.rest.length (cursor.skip part.length)
  { tail with text := part ++ tail.text }

end MemberDocs.Yaml
