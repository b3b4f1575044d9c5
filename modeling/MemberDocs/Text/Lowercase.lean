import MemberDocs.Text.CaseTable

/-! # Lower case

The full lower case of a text. Every character is lowered on its own, except two: the dotted
capital I becomes an i with a dot above, and a capital sigma becomes the final sigma at the end of a
word. A word's end is read off the cased letters around the sigma, past case-ignorable characters.
-/

namespace MemberDocs.Text

/-- Membership of a code point in a table of closed ranges. -/
def inRanges (table : List (Nat × Nat)) (n : Nat) : Bool :=
  table.any fun range => range.1 ≤ n && n ≤ range.2

/-- A letter with case, or a mark of one, that is not case-ignorable. -/
def isCased (c : Char) : Bool :=
  inRanges casedRanges c.toNat

/-- A character that is passed over when the end of a word is looked for. -/
def isCaseIgnorable (c : Char) : Bool :=
  inRanges caseIgnorableRanges c.toNat

/-- The lower case of a character that has a one-character lower case, and the character itself
otherwise. -/
def lowerChar (c : Char) : Char :=
  let n := c.toNat
  let run? := loweringRuns.find? fun run =>
    run.first ≤ n && n ≤ run.last && (n - run.first) % run.step == 0
  match run? with
  | some run => Char.ofNat (Int.toNat (n + run.offset))
  | none => c

/-- The first character that is not case-ignorable is a cased one. -/
def startsCased (cs : List Char) : Bool :=
  match cs.dropWhile isCaseIgnorable with
  | c :: _ => isCased c
  | [] => false

/-- Lowers a text whose characters before it are `before`, the nearest first. -/
def lowerChars (before : List Char) : List Char → List Char
  | [] => []
  | c :: rest =>
    let lowered :=
      if c = 'Σ' then
        [if startsCased before && !startsCased rest then 'ς' else 'σ']
      else if c = 'İ' then ['i', '\u0307']
      else [lowerChar c]
    lowered ++ lowerChars (c :: before) rest

/-- The lower case of a text. -/
def lower (s : String) : String :=
  String.ofList (lowerChars [] s.toList)

end MemberDocs.Text
