import MemberDocs.Proofs.Text.Lines
import MemberDocs.Xml.Document

/-! # Places by lines

A source is read character by character with the place of the next one (`Position.through`). The
place that is reached so is the one that the lines of the source give: its line is the number of lines
up to there, and its column the length of the last of them, each counted from 1
(`Position.through_start`). Every token of an element stands where its place says
(`reaches_of_mem_tokensFrom`), and the element where the prolog says (`reaches_of_readProlog`).
-/

namespace MemberDocs

/-- The lines of a source, each ended by LF, CR or CRLF. -/
def Text.sourceLines (source : List Char) : List (List Char) :=
  linesOfChars (unifyChars source)

open Text (sourceLines linesOfChars unifyChars)

namespace Position

variable (position : Position)

/-- The place after some characters that are followed by others. -/
def through (position : Position) : List Char → List Char → Position
  | [], _ => position
  | c :: before, after => (position.step c (before ++ after)).through before after

/-- The place at the end of some lines. -/
def overLines (position : Position) : List (List Char) → Position
  | [] => position
  | [line] => ⟨position.line, position.column + line.length⟩
  | _ :: rest => overLines ⟨position.line + 1, 1⟩ rest

theorem through_append (first second after : List Char) :
    position.through (first ++ second) after =
      (position.through first (second ++ after)).through second after := by
  induction first generalizing position with
  | nil => rfl
  | cons c rest ih => rw [List.cons_append, through, through, ih, List.append_assoc]

/-- What follows makes no difference to a text that does not end with a return. -/
theorem after_eq_through {source : List Char} (returns : source.getLast? ≠ some '\r')
    (rest : List Char) : position.after source = position.through source rest := by
  induction source generalizing position with
  | nil => rfl
  | cons c more ih =>
    cases more with
    | nil =>
      have other : c ≠ '\r' := by simpa using returns
      simp [after, through, step, other]
    | cons next others =>
      have same : position.step c (next :: others) = position.step c (next :: others ++ rest) := by
        by_cases isFeed : next = '\n'
        · simp [step, isFeed]
        · unfold step
          simp only [List.cons_append]
          split <;> simp_all
      rw [after, through, same]
      exact ih _ (by simpa using returns)

theorem overLines_cons {line : List Char} {rest : List (List Char)} (more : rest ≠ []) :
    position.overLines (line :: rest) = overLines ⟨position.line + 1, 1⟩ rest := by
  cases rest with
  | nil => exact absurd rfl more
  | cons next others => rfl

theorem through_eq_overLines {before after : List Char} (starts : after.head? ≠ some '\n') :
    position.through before after = position.overLines (sourceLines before) := by
  unfold sourceLines
  fun_induction unifyChars before generalizing position with
  | case1 => rfl
  | case2 rest ih =>
    rw [linesOfChars, if_pos rfl, overLines_cons _ (Text.linesOfChars_ne_nil _), ← ih]
    rfl
  | case3 c rest single ih =>
    rw [through, ih]
    by_cases isBreak : c = '\r' ∨ c = '\n'
    · have stepped : position.step c (rest ++ after) = ⟨position.line + 1, 1⟩ := by
        rcases isBreak with rfl | rfl
        · unfold step
          rw [if_neg (by decide), if_pos rfl]
          split
          next others follows =>
            cases rest with
            | nil => simp [show after = '\n' :: others from follows] at starts
            | cons next more => exact (single more rfl (by rw [(List.cons.inj follows).1])).elim
          next => rfl
        · rfl
      have broken : (if c = '\r' then '\n' else c) = '\n' := by
        rcases isBreak with rfl | rfl <;> rfl
      rw [broken, linesOfChars, if_pos rfl, overLines_cons _ (Text.linesOfChars_ne_nil _), stepped]
    · obtain ⟨notReturn, notFeed⟩ := not_or.mp isBreak
      obtain ⟨line, others, split⟩ :=
        List.exists_cons_of_ne_nil (Text.linesOfChars_ne_nil (unifyChars rest))
      rw [if_neg notReturn, linesOfChars, if_neg notFeed, split]
      cases others with
      | nil => simp [step, notReturn, notFeed, overLines, Nat.add_assoc, Nat.add_comm 1]
      | cons next more => simp [step, notReturn, notFeed, overLines]

theorem overLines_append (line : Nat) (earlier : List (List Char)) (lead : List Char) :
    overLines ⟨line, 1⟩ (earlier ++ [lead]) = ⟨line + earlier.length, lead.length + 1⟩ := by
  induction earlier generalizing line with
  | nil => simp [overLines, Nat.add_comm]
  | cons first rest ih =>
    rw [List.cons_append, overLines_cons _ (by simp), ih]
    simp only [List.length_cons]
    congr 1
    omega

/-- The place of what follows some characters is told by their lines, which are also those of the
whole source up to there. -/
theorem through_start (before : List Char) {c : Char} (notFeed : c ≠ '\n') (after : List Char) :
    ∃ earlier lead rest later, sourceLines before = earlier ++ [lead] ∧
      start.through before (c :: after) = ⟨earlier.length + 1, lead.length + 1⟩ ∧
      sourceLines (before ++ c :: after) = earlier ++ (lead ++ rest) :: later ∧
      (c ≠ '\r' → rest.head? = some c) := by
  have starts : (c :: after).head? ≠ some '\n' := by simpa using notFeed
  have filled : sourceLines before ≠ [] := Text.linesOfChars_ne_nil _
  obtain ⟨earlier, lead, lines⟩ : ∃ earlier lead, sourceLines before = earlier ++ [lead] :=
    ⟨_, _, (List.dropLast_concat_getLast filled).symm⟩
  obtain ⟨rest, later, follows⟩ :=
    List.exists_cons_of_ne_nil (Text.linesOfChars_ne_nil (unifyChars (c :: after)))
  refine ⟨earlier, lead, rest, later, lines, ?_, ?_, ?_⟩
  · rw [through_eq_overLines _ starts, lines, start, overLines_append, Nat.add_comm]
  · rw [sourceLines, Text.unifyChars_append_of_head? starts]
    exact Text.linesOfChars_append_lines lines follows
  · intro notReturn
    have unified : unifyChars (c :: after) = c :: unifyChars after := by
      rw [unifyChars, if_neg notReturn]
      exact fun others same => (notReturn same).elim
    obtain ⟨line, others, split⟩ :=
      List.exists_cons_of_ne_nil (Text.linesOfChars_ne_nil (unifyChars after))
    rw [unified, linesOfChars, if_neg notFeed, split] at follows
    rw [← (List.cons.inj follows).1]
    rfl

/-- From a place at the front of a source, reading comes to another place, where `rest` is left. -/
def Reaches (position : Position) (source : List Char) (place : Position) (rest : List Char) :
    Prop :=
  ∃ before, source = before ++ rest ∧ place = position.through before rest

variable {position} {place : Position} {source rest : List Char}

theorem Reaches.refl : position.Reaches source position source := ⟨[], rfl, rfl⟩

theorem Reaches.cons {c : Char} (reaches : (position.step c source).Reaches source place rest) :
    position.Reaches (c :: source) place rest := by
  obtain ⟨before, rfl, rfl⟩ := reaches
  exact ⟨c :: before, rfl, rfl⟩

theorem Reaches.trans {between : Position} {middle : List Char}
    (first : position.Reaches source between middle) (second : between.Reaches middle place rest) :
    position.Reaches source place rest := by
  obtain ⟨before, rfl, rfl⟩ := first
  obtain ⟨inside, rfl, rfl⟩ := second
  exact ⟨before ++ inside, (List.append_assoc ..).symm, (through_append ..).symm⟩

end Position

namespace Xml

/-- Every token of a source has been read where its place says. -/
theorem reaches_of_mem_tokensFrom {context : Context} {depth : Option Int} {stopping : Bool}
    {skip : Nat} {position : Position} {source : List Char} {placed : Placed}
    (member : placed ∈ (tokensFrom context depth stopping skip position source).1) :
    ∃ rest left, position.Reaches source placed.position rest ∧
      Token.scan context rest = .ok (placed.token, left) := by
  induction source generalizing depth stopping skip position with
  | nil => simp [tokensFrom] at member
  | cons c rest ih =>
    cases skip with
    | succ skip =>
      obtain ⟨after, left, reaches, scanned⟩ := ih (by simpa only [tokensFrom] using member)
      exact ⟨after, left, reaches.cons, scanned⟩
    | zero =>
      rw [tokensFrom] at member
      dsimp only at member
      split at member
      next => cases member
      next =>
        split at member
        next => cases member
        next token left scanned =>
          rcases List.mem_cons.mp member with rfl | later
          · exact ⟨c :: rest, left, .refl, scanned⟩
          · obtain ⟨after, left, reaches, scanned⟩ := ih later
            exact ⟨after, left, reaches.cons, scanned⟩

/-- The document element is read from the place where the prolog ends. -/
theorem reaches_of_readProlog {context : Context} {phase : Phase} {subset after : Subset}
    {skip : Nat} {position place : Position} {source rest : List Char}
    (read : readProlog context phase subset skip position source = .ok (after, place, rest)) :
    position.Reaches source place rest := by
  induction source generalizing phase subset skip position with
  | nil => simp [readProlog] at read
  | cons c more ih =>
    cases skip with
    | succ skip => exact (ih (by simpa only [readProlog] using read)).cons
    | zero =>
      rw [readProlog] at read
      split at read
      next => cases read
      next token left scanned =>
        dsimp only at read
        split at read
        next =>
          obtain ⟨-, rfl, rfl⟩ := Prod.mk.inj (Except.ok.inj read)
          exact .refl
        next =>
          split at read
          next => cases read
          next =>
            split at read
            next => cases read
            next =>
              split at read
              next => cases read
              next => exact (ih read).cons

end Xml

end MemberDocs
