import MemberDocs.Proofs.Markdown.Step
import MemberDocs.Proofs.Text.Blank
import MemberDocs.Proofs.Text.Replace
import MemberDocs.Proofs.Text.Runs
import Mathlib.Data.List.Forall2

/-! # Texts with their blanks collapsed

A text is rendered with its blanks collapsed. Seen from outside, every maximal run of blanks becomes
one space and the other runs stay (`toList_collapse_eq_flatMap`); and as the outcome falls into the
same runs again (`blankRuns_collapse`), two texts are rendered alike exactly if they differ in their
runs of blanks only (`collapse_eq_iff`). What a blank is comes from Unicode (`isBlank_iff`).
-/

namespace MemberDocs.Text

variable {c : Char} {inRun kind : Bool} {run other cs : List Char} {runs : List (List Char)}

/-! ## Blanks -/

/-- The code points of blanks, by what Unicode says of them. -/
def blankCodes : List Nat :=
  -- The space separators.
  [0x20, 0xA0, 0x1680] ++ List.range' 0x2000 11 ++ [0x202F, 0x205F, 0x3000] ++
  -- What parts paragraphs, and what parts segments, where the writing directions are mixed.
  [0x0A, 0x0D, 0x1C, 0x1D, 0x1E, 0x85, 0x2029] ++ [0x09, 0x0B, 0x1F] ++
  -- What is white space there besides.
  [0x0C, 0x2028]

theorem isBlank_iff : isBlank c ↔ c.toNat ∈ blankCodes := by
  simp only [isBlank, blankCodes, Bool.or_eq_true, Bool.and_eq_true, decide_eq_true_eq, beq_iff_eq,
    List.cons_append, List.nil_append, List.append_assoc, List.mem_cons, List.mem_append,
    List.mem_range'_1, List.not_mem_nil, or_false]
  omega

/-! ## What is left -/

/-- What is left of a run that has begun before does not start with a blank. -/
theorem head?_collapseChars_true (cs : List Char) :
    ∀ c ∈ (collapseChars true cs).head?, isBlank c = false := by
  induction cs with
  | nil => simp
  | cons c rest ih =>
    by_cases blank : isBlank c
    · simpa [collapseChars, blank] using ih
    · simp [collapseChars, blank]

/-- Of two neighbours that are left, one is not a blank. -/
theorem isChain_collapseChars (inRun : Bool) (cs : List Char) :
    (collapseChars inRun cs).IsChain fun c next => ¬(isBlank c ∧ isBlank next) := by
  induction cs generalizing inRun with
  | nil => exact .nil
  | cons c rest ih =>
    by_cases blank : isBlank c
    · cases inRun with
      | true => simpa [collapseChars, blank] using ih true
      | false =>
        have parted : ∀ next ∈ (collapseChars true rest).head?,
            ¬(isBlank ' ' ∧ isBlank next) := by
          intro next first
          simp [head?_collapseChars_true rest next first]
        simpa [collapseChars, blank] using List.isChain_cons.mpr ⟨parted, ih true⟩
    · have later : (c :: collapseChars false rest).IsChain fun c next =>
          ¬(isBlank c ∧ isBlank next) :=
        List.isChain_cons.mpr ⟨fun next _ both => blank both.1, ih false⟩
      simpa [collapseChars, blank] using later

/-- A blank may be written as another one first. -/
theorem collapseChars_map {write : Char → Char} (kept : ∀ c, isBlank c = false → write c = c)
    (blanks : ∀ c, isBlank c → isBlank (write c)) (inRun : Bool) (cs : List Char) :
    collapseChars inRun (cs.map write) = collapseChars inRun cs := by
  induction cs generalizing inRun with
  | nil => rfl
  | cons c rest ih =>
    by_cases blank : isBlank c
    · cases inRun <;> simp [collapseChars, blank, blanks c blank, ih]
    · simp [collapseChars, blank, kept c (by simpa using blank), ih]

/-! ## Maximal runs -/

/-- The text parted into maximal runs, of blanks or of other characters. -/
def blankRuns (cs : List Char) : List (List Char) :=
  cs.splitBy fun c next => isBlank c == isBlank next

/-- One space for a run of blanks; any other run as it is. -/
def collapseRun (run : List Char) : List Char :=
  if run.all isBlank then [' '] else run

/-- Two runs that are the same but for the number and kind of blanks. -/
def AlikeButBlanks (run other : List Char) : Prop :=
  run = other ∨ run.all isBlank ∧ other.all isBlank

theorem collapseRun_blank (blank : ∀ c ∈ run, isBlank c = true) : collapseRun run = [' '] :=
  if_pos (List.all_eq_true.mpr blank)

theorem collapseRun_shown (filled : run ≠ []) (shown : ∀ c ∈ run, isBlank c = false) :
    collapseRun run = run := by
  apply if_neg
  intro blank
  obtain ⟨c, member⟩ := List.exists_mem_of_ne_nil run filled
  simpa [shown c member] using List.all_eq_true.mp blank c member

/-- Collapsing a run keeps it one. -/
theorem collapseRun_alike (filled : run ≠ []) (alike : ∀ c ∈ run, isBlank c = kind) :
    collapseRun run ≠ [] ∧ ∀ c ∈ collapseRun run, isBlank c = kind := by
  cases kind with
  | true => simp [collapseRun_blank alike]
  | false =>
    rw [collapseRun_shown filled alike]
    exact ⟨filled, alike⟩

theorem all_isBlank_collapseRun (run : List Char) :
    (collapseRun run).all isBlank = run.all isBlank := by
  by_cases blank : run.all isBlank <;> simp [collapseRun, blank]

theorem alikeButBlanks_iff : AlikeButBlanks run other ↔ collapseRun run = collapseRun other := by
  constructor
  · rintro (rfl | ⟨blank, blankToo⟩)
    · rfl
    · rw [collapseRun, if_pos blank, collapseRun, if_pos blankToo]
  · intro same
    have both : run.all isBlank = other.all isBlank := by
      rw [← all_isBlank_collapseRun, same, all_isBlank_collapseRun]
    by_cases blank : run.all isBlank
    · exact Or.inr ⟨blank, both ▸ blank⟩
    · rw [collapseRun, if_neg blank, collapseRun, if_neg (both ▸ blank)] at same
      exact Or.inl same

/-- Blanks that are in a run already are left out. -/
theorem collapseChars_true_append (blank : ∀ c ∈ run, isBlank c = true) (cs : List Char) :
    collapseChars true (run ++ cs) = collapseChars true cs := by
  induction run with
  | nil => rfl
  | cons c rest ih =>
    rw [List.forall_mem_cons] at blank
    simp [collapseChars, blank.1, ih blank.2]

theorem collapseChars_of_head? (starts : ∀ c ∈ cs.head?, isBlank c = false) :
    collapseChars inRun cs = collapseChars false cs := by
  cases cs with
  | nil => rfl
  | cons c rest => simp [collapseChars, starts c rfl]

theorem collapseChars_shown_append (shown : ∀ c ∈ run, isBlank c = false) (cs : List Char) :
    collapseChars false (run ++ cs) = run ++ collapseChars false cs := by
  induction run with
  | nil => rfl
  | cons c rest ih =>
    rw [List.forall_mem_cons] at shown
    simp [collapseChars, shown.1, ih shown.2]

/-- Runs that take turns are collapsed one by one. -/
theorem collapseChars_flatten (parted : Alternating isBlank kind runs) :
    collapseChars false runs.flatten = runs.flatMap collapseRun := by
  induction parted with
  | nil => rfl
  | @cons kind run others filled alike later ih =>
    rw [List.flatten_cons, List.flatMap_cons, ← ih]
    cases kind with
    | false => rw [collapseRun_shown filled alike, collapseChars_shown_append alike]
    | true =>
      obtain ⟨c, rest, rfl⟩ := List.exists_cons_of_ne_nil filled
      have shown := later.head?_flatten
      rw [collapseRun_blank alike]
      rw [List.forall_mem_cons] at alike
      simp [collapseChars, alike.1, collapseChars_true_append alike.2, collapseChars_of_head? shown]

theorem toList_collapse_eq_flatMap (s : String) :
    (collapse s).toList = (blankRuns s.toList).flatMap collapseRun := by
  obtain ⟨kind, parted⟩ := alternating_splitBy isBlank s.toList
  rw [toList_collapse, blankRuns, ← collapseChars_flatten parted, List.flatten_splitBy]

/-- What comes out falls into the same runs, each of them collapsed. -/
theorem blankRuns_collapse (s : String) :
    blankRuns (collapse s).toList = (blankRuns s.toList).map collapseRun := by
  obtain ⟨kind, parted⟩ := alternating_splitBy isBlank s.toList
  have collapsed := parted.map fun run kind filled alike => collapseRun_alike filled alike
  rw [toList_collapse_eq_flatMap, List.flatMap_def]
  exact collapsed.splitBy_flatten

/-- Two texts are rendered alike exactly if they differ in their runs of blanks only. -/
theorem collapse_eq_iff {first second : String} :
    collapse first = collapse second ↔
      List.Forall₂ AlikeButBlanks (blankRuns first.toList) (blankRuns second.toList) := by
  calc collapse first = collapse second
      ↔ (blankRuns first.toList).map collapseRun = (blankRuns second.toList).map collapseRun := by
        constructor
        · intro same
          rw [← blankRuns_collapse, ← blankRuns_collapse, same]
        · intro same
          apply String.toList_inj.mp
          rw [toList_collapse_eq_flatMap, toList_collapse_eq_flatMap, List.flatMap_def,
            List.flatMap_def, same]
    _ ↔ List.Forall₂ AlikeButBlanks (blankRuns first.toList) (blankRuns second.toList) := by
        rw [← List.forall₂_eq_eq_eq, List.forall₂_map_left_iff, List.forall₂_map_right_iff]
        exact ⟨List.Forall₂.imp fun _ _ => alikeButBlanks_iff.mpr,
          List.Forall₂.imp fun _ _ => alikeButBlanks_iff.mp⟩

/-- The only blank that is left is the space. -/
theorem eq_space_of_mem_collapse {s : String} (member : c ∈ (collapse s).toList)
    (blank : isBlank c) : c = ' ' := by
  obtain ⟨start, parted⟩ := alternating_splitBy isBlank s.toList
  rw [toList_collapse_eq_flatMap] at member
  obtain ⟨run, among, inside⟩ := List.mem_flatMap.mp member
  obtain ⟨kind, alike⟩ := parted.exists_kind_of_mem among
  cases kind with
  | true => simpa [collapseRun_blank alike] using inside
  | false =>
    rw [collapseRun_shown (List.ne_nil_of_mem_splitBy among) alike] at inside
    exact absurd blank (by simp [alike c inside])

/-- A blank text is rendered as one space or not at all. -/
theorem isBlankText_iff {s : String} : isBlankText s ↔ collapse s = "" ∨ collapse s = " " := by
  constructor
  · intro blank
    rw [isBlankText, List.all_eq_true] at blank
    cases chars : s.toList with
    | nil =>
      left
      simp [collapse, chars]
    | cons c rest =>
      right
      rw [chars, List.forall_mem_cons] at blank
      apply String.toList_inj.mp
      rw [toList_collapse, chars]
      simpa [collapseChars, blank.1] using collapseChars_true_append blank.2 []
  · intro shown
    have none : (collapse s).toList.filter (!isBlank ·) = [] := by
      rcases shown with same | same <;> simp [same]
    rw [filter_collapse, List.filter_eq_nil_iff] at none
    simpa [isBlankText] using none

/-- A line feed may be written as a space first. -/
theorem collapse_replaceAll_lineFeed (s : String) :
    collapse (replaceAll "\n" " " s) = collapse s := by
  apply String.toList_inj.mp
  have feed : isBlank '\n' := by decide
  have written : (replaceAll "\n" " " s).toList =
      s.toList.map fun c => if c = '\n' then ' ' else c := by
    rw [replaceAll, String.toList_ofList]
    exact replaceChars_singleton '\n' ' ' s.toList
  rw [toList_collapse, written, toList_collapse]
  apply collapseChars_map
  · intro c shown
    have other : c ≠ '\n' := by
      rintro rfl
      simp [feed] at shown
    exact if_neg other
  · intro c blank
    by_cases same : c = '\n' <;> simp [same, blank]

end MemberDocs.Text

namespace MemberDocs.Markdown

open Text

/-- **Blanks in a text.** Under any rules and wherever it stands, a text is rendered with one space
for each of its maximal runs of blanks and with all else as it is. A blank is what Unicode has as a
space or a separator, and a text of these only, as no element of a parsed document has one, is
rendered as one space or not at all. So there is neither a line feed nor a pair of spaces in what
comes out, collapsing it once more changes nothing, and two texts are rendered alike exactly if they
differ in their runs of blanks only. It matters neither whether two texts are collapsed before they
are put together, nor whether line feeds are written as spaces before. -/
theorem texts_are_rendered_with_single_spaces (table : RuleTable) (context : Option String)
    (previous : Option Tag) (position : Position) (first second : String) :
    renderNode table context previous (.text first position) = .ok (collapse first) ∧
    (∀ c, isBlank c = true ↔ c.toNat ∈ blankCodes) ∧
    (collapse first).toList = (blankRuns first.toList).flatMap collapseRun ∧
    (collapse first).toList.filter (!isBlank ·) = first.toList.filter (!isBlank ·) ∧
    '\n' ∉ (collapse first).toList ∧
    ¬ [' ', ' '] <:+: (collapse first).toList ∧
    collapse (collapse first) = collapse first ∧
    (collapse first = collapse second ↔
      List.Forall₂ AlikeButBlanks (blankRuns first.toList) (blankRuns second.toList)) ∧
    collapse (collapse first ++ collapse second) = collapse (first ++ second) ∧
    collapse (replaceAll "\n" " " first) = collapse first ∧
    (isBlankText first = true ↔ collapse first = "" ∨ collapse first = " ") := by
  refine ⟨renderNode_text first position, fun c => isBlank_iff, toList_collapse_eq_flatMap first,
    filter_collapse first, ?_, ?_, collapse_collapse first, collapse_eq_iff,
    collapse_append_collapse first second, collapse_replaceAll_lineFeed first, isBlankText_iff⟩
  · intro feed
    have same : '\n' = ' ' := eq_space_of_mem_collapse feed (by decide)
    exact absurd same (by decide)
  · rintro ⟨before, after, parts⟩
    have chain := isChain_collapseChars false first.toList
    rw [← toList_collapse, ← parts] at chain
    have apart := chain.left_of_append.right_of_append
    simp at apart

example : collapse "\u2028a \n b\xa0\x1c\x85c" = " a b c" := by decide

end MemberDocs.Markdown
