/-! # Blank characters

The one class of blanks that documentation text is read with: the separators and the line, page and
field controls of Unicode. A text without other characters is blank (`isBlankText`), the ends of a
text are cleared of blanks by `strip`, and `collapse` writes every run of blanks as one space.
-/

namespace MemberDocs.Text

/-- A blank: a tab, a line or page break, one of the four field separators, the next-line control,
or a space of any width that is not of zero width. -/
def isBlank (c : Char) : Bool :=
  let n := c.toNat
  (9 ≤ n && n ≤ 13) || (28 ≤ n && n ≤ 32) || n == 0x85 || n == 0xA0 || n == 0x1680 ||
    (0x2000 ≤ n && n ≤ 0x200A) || n == 0x2028 || n == 0x2029 || n == 0x202F || n == 0x205F ||
    n == 0x3000

/-- A text that holds blanks only. The empty text is one. -/
def isBlankText (s : String) : Bool :=
  s.toList.all isBlank

/-- The characters up to the last one that is not blank. -/
def stripEndChars : List Char → List Char
  | [] => []
  | c :: rest =>
    match stripEndChars rest with
    | [] => if isBlank c then [] else [c]
    | kept => c :: kept

/-- The text without the blanks at its end. -/
def stripEnd (s : String) : String :=
  String.ofList (stripEndChars s.toList)

/-- The text without the blanks at its two ends. -/
def strip (s : String) : String :=
  String.ofList (stripEndChars (s.toList.dropWhile isBlank))

/-- Writes every run of blanks as one space; `inRun` says that the run at the front has been
written already. -/
def collapseChars (inRun : Bool) : List Char → List Char
  | [] => []
  | c :: rest =>
    if isBlank c then
      if inRun then collapseChars true rest else ' ' :: collapseChars true rest
    else c :: collapseChars false rest

/-- The text with every maximal run of blanks written as one space. -/
def collapse (s : String) : String :=
  String.ofList (collapseChars false s.toList)

@[simp] theorem collapseChars_nil (inRun : Bool) : collapseChars inRun [] = [] := rfl

theorem toList_collapse (s : String) : (collapse s).toList = collapseChars false s.toList := by
  simp [collapse]

end MemberDocs.Text
