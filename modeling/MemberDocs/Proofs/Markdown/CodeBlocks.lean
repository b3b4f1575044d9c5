import MemberDocs.Markdown.CodeBlock
import MemberDocs.Proofs.Text.Blank
import MemberDocs.Proofs.Text.Lines
import Mathlib.Data.List.TakeWhile

/-! # What a code block keeps

The lines of a code sample that are not empty are cut by one width (`cutWidth`), which the first of
them decides, and trimmed at the end (`codeBlock_of_lines`). The cut is made by position: it takes
spaces off the first line (`drop_indentation_sub`), and whatever stands there off the others. So the
characters that are lost are those left of the cut, and a sample keeps all of its code exactly if
these are blank (`code_is_kept_right_of_cut`). A sample that is moved to the right as a whole is
shown as before, with at most four columns in front (`code_keeps_four_columns`).
-/

namespace MemberDocs.Markdown

open Text

/-- The lines of a text that are not empty. -/
def codeLines (text : String) : List (List Char) :=
  (linesOfChars text.toList).filter (!·.isEmpty)

/-- How many characters are cut off the front of each line: as many as the first is indented beyond
four columns. -/
def cutWidth (text : String) : Nat :=
  indentation ((codeLines text).headD []) - 4

/-- The characters that are not blank. -/
def shownChars (cs : List Char) : List Char :=
  cs.filter (!isBlank ·)

variable {text : String} {first line : List Char} {rest lines : List (List Char)}

theorem codeBlock_of_no_lines (none : codeLines text = []) : codeBlock text = text := by
  rw [codeBlock, ← codeLines, none]

/-- A code block is the lines that are not empty, each cut by the same width, without the blanks at
the end. -/
theorem codeBlock_of_lines (filled : codeLines text ≠ []) :
    (codeBlock text).toList =
      stripEndChars (joinLineChars ((codeLines text).map (List.drop (cutWidth text)))) := by
  rw [codeBlock, ← codeLines, cutWidth]
  cases parts : codeLines text with
  | nil => exact absurd parts filled
  | cons first rest => exact String.toList_ofList

theorem not_mem_of_mem_codeLines (member : line ∈ codeLines text) : '\n' ∉ line :=
  not_mem_of_mem_linesOfChars (List.mem_filter.mp member).1

/-! ## The characters that are kept -/

theorem shownChars_append (before after : List Char) :
    shownChars (before ++ after) = shownChars before ++ shownChars after :=
  List.filter_append before after

theorem shownChars_eq_nil_iff {cs : List Char} : shownChars cs = [] ↔ ∀ c ∈ cs, isBlank c := by
  simp [shownChars]

theorem shownChars_joinLineChars (lines : List (List Char)) :
    shownChars (joinLineChars lines) = lines.flatMap shownChars :=
  filter_joinLineChars (by decide) lines

/-- Empty lines hold nothing that is shown. -/
theorem shownChars_text (text : String) :
    shownChars text.toList = (codeLines text).flatMap shownChars := by
  have split : shownChars text.toList = (linesOfChars text.toList).flatMap shownChars := by
    rw [← shownChars_joinLineChars, joinLineChars_linesOfChars]
  rw [split, codeLines]
  induction linesOfChars text.toList with
  | nil => rfl
  | cons line more ih =>
    cases line with
    | nil => exact ih
    | cons c others =>
      rw [List.flatMap_cons, ih]
      rfl

theorem shownChars_codeBlock (text : String) :
    shownChars (codeBlock text).toList =
      (codeLines text).flatMap fun line => shownChars (line.drop (cutWidth text)) := by
  by_cases filled : codeLines text = []
  · rw [codeBlock_of_no_lines filled, shownChars_text, filled]
    rfl
  · rw [codeBlock_of_lines filled, shownChars, filter_stripEndChars, ← shownChars,
      shownChars_joinLineChars, List.flatMap_map]

theorem shownChars_take_append_drop (width : Nat) (line : List Char) :
    shownChars line = shownChars (line.take width) ++ shownChars (line.drop width) := by
  rw [← shownChars_append, List.take_append_drop]

/-- Cutting lines by position adds nothing and moves nothing. -/
theorem flatMap_shownChars_drop_sublist (width : Nat) (lines : List (List Char)) :
    (lines.flatMap fun line => shownChars (line.drop width)).Sublist
      (lines.flatMap shownChars) := by
  induction lines with
  | nil => exact List.Sublist.refl []
  | cons line more ih =>
    apply List.Sublist.append _ ih
    rw [shownChars_take_append_drop width line]
    exact List.sublist_append_right _ _

/-- Cutting lines by position loses nothing that is shown exactly if it cuts off blanks only. -/
theorem flatMap_shownChars_drop_eq_iff (width : Nat) :
    (lines.flatMap fun line => shownChars (line.drop width)) = lines.flatMap shownChars ↔
      ∀ line ∈ lines, ∀ c ∈ line.take width, isBlank c := by
  induction lines with
  | nil => simp
  | cons line more ih =>
    rw [List.forall_mem_cons, ← ih, ← shownChars_eq_nil_iff, List.flatMap_cons, List.flatMap_cons,
      shownChars_take_append_drop width line]
    constructor
    · intro same
      have fewer := (flatMap_shownChars_drop_sublist width more).length_le
      have lengths := congrArg List.length same
      simp only [List.length_append] at lengths
      have nothing : shownChars (line.take width) = [] := by
        apply List.eq_nil_of_length_eq_zero
        omega
      rw [nothing, List.nil_append] at same
      exact ⟨nothing, List.append_cancel_left same⟩
    · rintro ⟨nothing, same⟩
      rw [nothing, List.nil_append, same]

/-! ## Indentation -/

/-- A line with its leading spaces cut to `most` at most. -/
def capIndentation (most : Nat) (line : List Char) : List Char :=
  List.replicate (min most (indentation line)) ' ' ++ line.dropWhile (· = ' ')

/-- The text with `count` spaces in front of every line that is not empty. -/
def indentLines (count : Nat) (text : String) : String :=
  String.ofList (joinLineChars ((linesOfChars text.toList).map fun line =>
    if line = [] then [] else List.replicate count ' ' ++ line))

theorem eq_replicate_append_dropWhile (line : List Char) :
    line = List.replicate (indentation line) ' ' ++ line.dropWhile (· = ' ') := by
  have spaces : line.takeWhile (· = ' ') = List.replicate (indentation line) ' ' := by
    apply List.eq_replicate_of_mem
    intro c member
    simpa using List.mem_takeWhile_imp member
  rw [← spaces, List.takeWhile_append_dropWhile]

/-- A cut that is no wider than a line is indented takes spaces off it. -/
theorem drop_of_le_indentation {width : Nat} (within : width ≤ indentation line) :
    line.drop width =
      List.replicate (indentation line - width) ' ' ++ line.dropWhile (· = ' ') := by
  calc line.drop width
      = (List.replicate (indentation line) ' ' ++ line.dropWhile (· = ' ')).drop width :=
        congrArg (List.drop width) (eq_replicate_append_dropWhile line)
    _ = _ := by rw [List.drop_append_of_le_length (by simpa using within), List.drop_replicate]

/-- Cutting off what a line is indented beyond a width leaves it indented to the width. -/
theorem drop_indentation_sub (most : Nat) (line : List Char) :
    line.drop (indentation line - most) = capIndentation most line := by
  have left : indentation line - (indentation line - most) = min most (indentation line) := by
    omega
  rw [drop_of_le_indentation (Nat.sub_le _ _), left, capIndentation]

theorem shownChars_drop_of_le {width : Nat} (within : width ≤ indentation line) :
    shownChars (line.drop width) = shownChars line := by
  have spaces (count : Nat) : shownChars (List.replicate count ' ') = [] := by
    apply shownChars_eq_nil_iff.mpr
    intro c member
    obtain rfl : c = ' ' := List.eq_of_mem_replicate member
    decide
  rw [drop_of_le_indentation within, shownChars_append, spaces, ← spaces (indentation line),
    ← shownChars_append, ← eq_replicate_append_dropWhile]

theorem indentation_replicate_append (count : Nat) (line : List Char) :
    indentation (List.replicate count ' ' ++ line) = count + indentation line := by
  simp [indentation]

/-- **What a code block keeps.** Its characters that are not blank are those right of the cut, line by
line, where the text has those of the whole lines. A line that is indented as far as the cut loses
nothing, and no code is lost at all exactly if there are only blanks left of the cut. -/
theorem code_is_kept_right_of_cut (text : String) :
    shownChars (codeBlock text).toList =
      (codeLines text).flatMap (fun line => shownChars (line.drop (cutWidth text))) ∧
    shownChars text.toList = (codeLines text).flatMap shownChars ∧
    (∀ line ∈ codeLines text, cutWidth text ≤ indentation line →
      shownChars (line.drop (cutWidth text)) = shownChars line) ∧
    (shownChars (codeBlock text).toList = shownChars text.toList ↔
      ∀ line ∈ codeLines text, ∀ c ∈ line.take (cutWidth text), isBlank c) := by
  refine ⟨shownChars_codeBlock text, shownChars_text text, ?_, ?_⟩
  · intro line _ within
    exact shownChars_drop_of_le within
  · rw [shownChars_codeBlock, shownChars_text]
    exact flatMap_shownChars_drop_eq_iff (cutWidth text)

/-- Lines that are indented as far as the first one lose spaces only, and keep a tab behind them. -/
theorem deep_lines_keep_their_code :
    let text := "\n      if x:\n\n      \ty\n        z  \n    "
    codeBlock text = "    if x:\n    \ty\n      z" ∧
    shownChars (codeBlock text).toList = shownChars text.toList := by
  intro text
  obtain ⟨-, -, -, keeps⟩ := code_is_kept_right_of_cut text
  have blank : (codeLines text).all fun line => (line.take (cutWidth text)).all isBlank := by decide
  refine ⟨by decide, keeps.mpr ?_⟩
  simpa only [List.all_eq_true] using blank

/-- A line that is indented less than the cut loses what stands in front of it. -/
theorem shallow_line_loses_code :
    codeBlock "     a\nb" = "    a" ∧
    shownChars (codeBlock "     a\nb").toList ≠ shownChars "     a\nb".toList := by
  decide

/-! ## A sample that is moved to the right -/

theorem codeLines_indentLines (count : Nat) (text : String) :
    codeLines (indentLines count text) =
      (codeLines text).map (List.replicate count ' ' ++ ·) := by
  have moved : linesOfChars (indentLines count text).toList =
      (linesOfChars text.toList).map fun line =>
        if line = [] then [] else List.replicate count ' ' ++ line := by
    rw [indentLines, String.toList_ofList]
    apply linesOfChars_joinLineChars
    · simpa using linesOfChars_ne_nil text.toList
    · rw [List.forall_mem_map]
      intro line member
      have unbroken := not_mem_of_mem_linesOfChars member
      by_cases empty : line = []
      · simp [empty]
      · simp [empty, unbroken]
  rw [codeLines, codeLines, moved]
  induction linesOfChars text.toList with
  | nil => rfl
  | cons line more ih => cases line <;> simpa using ih

/-- The cut moves with the lines if the first is indented as far as the cut leaves it, or further. -/
theorem codeBlock_indentLines (lines : codeLines text = first :: rest)
    (deep : 4 ≤ indentation first) (count : Nat) :
    codeBlock (indentLines count text) = codeBlock text := by
  have wider : cutWidth (indentLines count text) = count + cutWidth text := by
    rw [cutWidth, cutWidth, codeLines_indentLines, lines, List.map_cons, List.headD_cons,
      List.headD_cons, indentation_replicate_append]
    omega
  have moved : ((codeLines text).map (List.replicate count ' ' ++ ·)).map
      (List.drop (count + cutWidth text)) = (codeLines text).map (List.drop (cutWidth text)) := by
    rw [List.map_map]
    apply List.map_congr_left
    intro line _
    rw [Function.comp_apply, ← List.drop_drop, List.drop_left' List.length_replicate]
  apply String.toList_injective
  rw [codeBlock_of_lines (by simp [codeLines_indentLines, lines]),
    codeBlock_of_lines (by simp [lines]), codeLines_indentLines, wider, moved]

/-! ## The first line -/

theorem stripEndChars_joinLineChars_eq_nil_iff :
    stripEndChars (joinLineChars rest) = [] ↔ ∀ line ∈ rest, ∀ c ∈ line, isBlank c := by
  rw [stripEndChars_eq_nil_iff, ← shownChars_eq_nil_iff, shownChars_joinLineChars,
    List.flatMap_eq_nil_iff]
  simp only [shownChars_eq_nil_iff]

/-- Lines that hold only blanks are cut off, with the breaks in front of them. -/
theorem stripEndChars_joinLineChars_of_blank (first : List Char)
    (blank : ∀ line ∈ rest, ∀ c ∈ line, isBlank c) :
    stripEndChars (joinLineChars (first :: rest)) = stripEndChars first := by
  have lineBreak : isBlank '\n' = true := by decide
  by_cases single : rest = []
  · rw [single]
    rfl
  · rw [joinLineChars_cons first single, stripEndChars_append, stripEndChars,
      stripEndChars_joinLineChars_eq_nil_iff.mpr blank]
    simp only [lineBreak, ↓reduceIte]

theorem stripEndChars_joinLineChars_of_shown (first : List Char)
    (shown : ¬ ∀ line ∈ rest, ∀ c ∈ line, isBlank c) :
    stripEndChars (joinLineChars (first :: rest)) =
      first ++ '\n' :: stripEndChars (joinLineChars rest) := by
  have filled : rest ≠ [] := by
    rintro rfl
    exact shown (List.forall_mem_nil _)
  obtain ⟨c, more, kept⟩ :=
    List.exists_cons_of_ne_nil (mt stripEndChars_joinLineChars_eq_nil_iff.mp shown)
  rw [joinLineChars_cons first filled, stripEndChars_append, stripEndChars, kept]
  simp only [reduceCtorEq, ↓reduceIte]

/-- The lines of a code block: its first line stands whole in front of what is left of the others,
and is trimmed when nothing is. -/
theorem linesOfChars_stripEndChars (unbroken : ∀ line ∈ first :: rest, '\n' ∉ line) :
    ∃ more, linesOfChars (stripEndChars (joinLineChars (first :: rest))) =
        (if more = [] then stripEndChars first else first) :: more ∧
      (more = [] ↔ ∀ line ∈ rest, ∀ c ∈ line, isBlank c) := by
  have front : '\n' ∉ first := unbroken first List.mem_cons_self
  by_cases blank : ∀ line ∈ rest, ∀ c ∈ line, isBlank c
  · refine ⟨[], ?_, iff_of_true rfl blank⟩
    rw [stripEndChars_joinLineChars_of_blank first blank, if_pos rfl]
    apply linesOfChars_of_unbroken
    intro member
    exact front ((stripEndChars_prefix_self first).subset member)
  · refine ⟨linesOfChars (stripEndChars (joinLineChars rest)), ?_,
      iff_of_false (linesOfChars_ne_nil _) blank⟩
    rw [stripEndChars_joinLineChars_of_shown first blank, if_neg (linesOfChars_ne_nil _)]
    exact linesOfChars_append front _

/-- **Code that is dedented.** Where the first line that is not empty has four spaces in front or more,
the code block does not depend on how far the lines are moved to the right together. The block ends
with a character that is not blank, if it holds any, and starts with that first line, its spaces cut
to four at most; this line is trimmed if nothing is left of the others. If it has no more than four
spaces, the block is all the lines that are not empty, trimmed at the end. -/
theorem code_keeps_four_columns (lines : codeLines text = first :: rest) :
    (4 ≤ indentation first → ∀ count, codeBlock (indentLines count text) = codeBlock text) ∧
    (∀ c ∈ (codeBlock text).toList.getLast?, isBlank c = false) ∧
    (∃ more, linesOfChars (codeBlock text).toList =
        (if more = [] then stripEndChars (capIndentation 4 first) else capIndentation 4 first) ::
          more ∧
      (more = [] ↔ ∀ line ∈ rest, ∀ c ∈ line.drop (cutWidth text), isBlank c)) ∧
    (indentation first ≤ 4 →
      (codeBlock text).toList = stripEndChars (joinLineChars (first :: rest))) := by
  have width : cutWidth text = indentation first - 4 := by
    rw [cutWidth, lines, List.headD_cons]
  have block : (codeBlock text).toList =
      stripEndChars (joinLineChars ((first :: rest).map (List.drop (cutWidth text)))) := by
    rw [codeBlock_of_lines (by simp [lines]), lines]
  refine ⟨codeBlock_indentLines lines, ?_, ?_, ?_⟩
  · intro c last
    rw [block] at last
    exact isBlank_getLast?_stripEndChars last
  · have unbroken : ∀ line ∈ (first :: rest).map (List.drop (cutWidth text)), '\n' ∉ line := by
      rw [List.forall_mem_map]
      intro line member inside
      exact not_mem_of_mem_codeLines (lines ▸ member) (List.mem_of_mem_drop inside)
    rw [List.map_cons, width, drop_indentation_sub, ← width] at unbroken block
    obtain ⟨more, split, nothing⟩ := linesOfChars_stripEndChars unbroken
    refine ⟨more, block ▸ split, ?_⟩
    rw [nothing, List.forall_mem_map]
  · intro shallow
    have none : cutWidth text = 0 := by omega
    rw [block, none, List.map_id'' fun line => List.drop_zero]

/-- A sample whose first line has exactly four spaces is trimmed at the end only, however far it is
moved to the right. -/
theorem moved_sample_is_shown_alike :
    let text := "\n    if x:\n      y\n  z \n   "
    codeBlock (indentLines 3 text) = codeBlock text ∧
    (codeBlock text).toList = "    if x:\n      y\n  z".toList := by
  intro text
  have lines : codeLines text =
      "    if x:".toList :: ["      y".toList, "  z ".toList, "   ".toList] := by decide
  obtain ⟨moved, -, -, joined⟩ := code_keeps_four_columns lines
  refine ⟨moved (by decide) 3, ?_⟩
  rw [joined (by decide)]
  decide

end MemberDocs.Markdown
