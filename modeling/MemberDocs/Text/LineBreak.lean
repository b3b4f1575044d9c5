/-! # Line breaks

Three readings of a line break. `unify` reads the three spellings LF, CRLF and CR as one LF;
`squeeze` keeps at most two line feeds of every run, so that paragraphs are parted by one empty
line; `lines` and `joinLines` part a text at its line feeds and put it together again.
-/

namespace MemberDocs.Text

def unifyChars : List Char → List Char
  | [] => []
  | '\r' :: '\n' :: rest => '\n' :: unifyChars rest
  | c :: rest => (if c = '\r' then '\n' else c) :: unifyChars rest

/-- The text with each of the line endings LF, CRLF and CR written as LF. -/
def unify (s : String) : String :=
  String.ofList (unifyChars s.toList)

/-- Keeps at most two line feeds of every run; `seen` counts those just before. -/
def squeezeChars (seen : Nat) : List Char → List Char
  | [] => []
  | c :: rest =>
    if c = '\n' then
      if seen < 2 then '\n' :: squeezeChars (seen + 1) rest else squeezeChars seen rest
    else c :: squeezeChars 0 rest

/-- The text in which every run of three or more line feeds is cut to two. -/
def squeeze (s : String) : String :=
  String.ofList (squeezeChars 0 s.toList)

/-- The pieces of a text between its line feeds; a text always has one piece at least. -/
def linesOfChars : List Char → List (List Char)
  | [] => [[]]
  | c :: rest =>
    if c = '\n' then [] :: linesOfChars rest
    else
      match linesOfChars rest with
      | [] => [[c]]
      | line :: lines => (c :: line) :: lines

/-- The lines of a text, parted by line feeds. -/
def lines (s : String) : List String :=
  (linesOfChars s.toList).map String.ofList

/-- Lines written one after the other with a line feed between two of them. -/
def joinLineChars : List (List Char) → List Char
  | [] => []
  | [line] => line
  | line :: rest => line ++ '\n' :: joinLineChars rest

/-- Lines joined by line feeds. -/
def joinLines (ls : List String) : String :=
  String.intercalate "\n" ls

theorem linesOfChars_ne_nil (s : List Char) : linesOfChars s ≠ [] := by
  cases s with
  | nil => simp [linesOfChars]
  | cons c rest =>
    simp only [linesOfChars]
    split
    · simp
    · split <;> simp

theorem joinLineChars_linesOfChars (s : List Char) : joinLineChars (linesOfChars s) = s := by
  induction s with
  | nil => rfl
  | cons c rest ih =>
    simp only [linesOfChars]
    split
    next isBreak =>
      cases h : linesOfChars rest with
      | nil => exact absurd h (linesOfChars_ne_nil rest)
      | cons line lines => simp [joinLineChars, h ▸ ih, isBreak]
    next =>
      cases h : linesOfChars rest with
      | nil => exact absurd h (linesOfChars_ne_nil rest)
      | cons line lines =>
        rw [h] at ih
        cases lines with
        | nil => simpa [joinLineChars] using ih
        | cons second more => simpa [joinLineChars] using ih

end MemberDocs.Text
