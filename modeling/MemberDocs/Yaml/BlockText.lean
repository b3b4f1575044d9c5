import MemberDocs.Yaml.Quotation

/-! # Block scalars

A scalar that is written as indented lines after a bar, which keeps the line breaks, or after a
greater-than sign, which folds them. The header may tell what becomes of the breaks at the end
(`Chomping`) and how far the lines are indented.
-/

namespace MemberDocs.Yaml

/-- What becomes of the line breaks at the end of a block scalar. -/
inductive Chomping where
  | strip
  | clip
  | keep
deriving DecidableEq, Repr

/-- The header of a block scalar. -/
structure BlockHeader where
  chomping : Chomping
  /-- How much deeper than the block around it the lines are indented, if the header tells. -/
  increment : Option Nat
deriving Repr

/-- The chomping sign in front. -/
def chompingSign? : List Char → Option Chomping
  | '+' :: _ => some .keep
  | '-' :: _ => some .strip
  | _ => none

/-- The indentation digit in front. -/
def indentDigit? : List Char → Option Nat
  | c :: _ => if c.isDigit then some (digitOf c) else none
  | [] => none

/-- Reads a header, whose two signs come in either order. An indentation of zero is refused. -/
def readBlockHeader (cursor : Cursor) : Except Fault (BlockHeader × Cursor) :=
  let (header, after) : BlockHeader × Cursor :=
    match chompingSign? cursor.rest with
    | some chomping =>
      let after := cursor.next
      match indentDigit? after.rest with
      | some n => (⟨chomping, some n⟩, after.next)
      | none => (⟨chomping, none⟩, after)
    | none =>
      match indentDigit? cursor.rest with
      | some n =>
        let after := cursor.next
        match chompingSign? after.rest with
        | some chomping => (⟨chomping, some n⟩, after.next)
        | none => (⟨.clip, some n⟩, after)
      | none => (⟨.clip, none⟩, cursor)
  if header.increment = some 0 then .error badToken
  else if !atEndOr (fun c => c = ' ' || isBreak c) after.rest then .error badToken
  else
    match after.skipLineEnd? with
    | some last => .ok (header, last)
    | none => .error badToken

/-- The empty lines before the first line of a block scalar, and the deepest column of the spaces on
them and before that line. -/
def leadingBreaks (deepest : Nat) : Nat → Cursor → List Char × Nat × Cursor
  | 0, cursor => ([], deepest, cursor)
  | fuel + 1, cursor =>
    match cursor.lineBreak? with
    | some (c, after) =>
      let (breaks, deepest, last) := leadingBreaks deepest fuel after
      (c :: breaks, deepest, last)
    | none =>
      if startsWith (· = ' ') cursor.rest then
        leadingBreaks (max deepest cursor.next.column) fuel cursor.next
      else ([], deepest, cursor)

/-- The position after the spaces in front, but not past the column `indent`. -/
def skipIndent (indent : Nat) (cursor : Cursor) : Cursor :=
  cursor.skip (min (cursor.run (· = ' ')).length (indent - cursor.column))

/-- The empty lines in front, and the position at the indentation of the line after them. -/
def emptyLines (indent : Nat) : Nat → Cursor → List Char × Cursor
  | 0, cursor => ([], cursor)
  | fuel + 1, cursor =>
    let cursor := skipIndent indent cursor
    match cursor.lineBreak? with
    | some (c, after) =>
      let (breaks, last) := emptyLines indent fuel after
      (c :: breaks, last)
    | none => ([], cursor)

/-- The lines of a block scalar, and the breaks after the last of them. -/
structure BlockLines where
  text : List Char
  lastBreak : List Char
  breaks : List Char
  cursor : Cursor

/-- The line break between two lines; folding turns it into a space, or into nothing if empty lines
follow, unless one of the lines starts with a blank. -/
def joinLine (folded : Bool) (lineBreak breaks : List Char) (fromText : Bool) (next : List Char) :
    List Char :=
  let isBlank (c : Char) : Bool := c = ' ' || c = '\t'
  if folded && lineBreak = ['\n'] && fromText && !startsWith isBlank next then
    if breaks.isEmpty then [' '] else []
  else lineBreak

/-- Reads the lines of a block scalar from the column `indent`; `breaks` are the empty lines before
the first of them. -/
def blockLines (folded : Bool) (indent : Nat) : Nat → List Char → Cursor → BlockLines
  | 0, breaks, cursor => ⟨[], [], breaks, cursor⟩
  | fuel + 1, breaks, cursor =>
    let line := cursor.run (!isBreak ·)
    let fromText := !startsWith (fun c => c = ' ' || c = '\t') cursor.rest
    let atEnd := cursor.skipRun (!isBreak ·)
    let (lineBreak, after) : List Char × Cursor :=
      match atEnd.lineBreak? with
      | some (c, after) => ([c], after)
      | none => ([], atEnd)
    let (following, start) := emptyLines indent (after.rest.length + 1) after
    if start.column = indent && !start.rest.isEmpty then
      let join := joinLine folded lineBreak following fromText start.rest
      let lines := blockLines folded indent fuel following start
      { lines with text := breaks ++ line ++ join ++ lines.text }
    else ⟨breaks ++ line, lineBreak, following, start⟩

/-- Reads the block scalar in front, inside of a block at the column `outer`, which is -1 outside of
every block. -/
def readBlock (folded : Bool) (outer : Int) (cursor : Cursor) :
    Except Fault (List Char × Cursor) := do
  let (header, start) ← readBlockHeader cursor.next
  let least : Nat := max (outer + 1).toNat 1
  let fuel := start.rest.length + 1
  let (indent, breaks, first) : Nat × List Char × Cursor :=
    match header.increment with
    | some n =>
      let indent := least + n - 1
      let (breaks, first) := emptyLines indent fuel start
      (indent, breaks, first)
    | none =>
      let (breaks, deepest, first) := leadingBreaks 0 fuel start
      (max least deepest, breaks, first)
  let lines :=
    if first.column = indent && !first.rest.isEmpty then blockLines folded indent fuel breaks first
    else ⟨[], [], breaks, first⟩
  let ending :=
    match header.chomping with
    | .strip => []
    | .clip => lines.lastBreak
    | .keep => lines.lastBreak ++ lines.breaks
  .ok (lines.text ++ ending, lines.cursor)

end MemberDocs.Yaml
