import MemberDocs.Proofs.Text.Lines
import MemberDocs.Proofs.Xml.Lexemes

/-! # Scans of a source with unified line endings

A source and the source with its line endings unified are scanned alike: what is read differs in its
line endings only (`Unified`). Each scan stops in front of a line ending of either spelling, or passes
over the whole of it (`Runs.unified`).
-/

namespace MemberDocs.Xml

open Text (unifyChars unifyChars_cons unifyChars_return unifyChars_break returns_not_mem_unifyChars)

variable {α β ε : Type}

/-- Two scans that give the same, apart from line endings: what the second one gives is got by `norm`
from what the first one gives, and what is left has unified line endings. -/
inductive Unified (norm : α → α) :
    Except ε (α × List Char) → Except ε (α × List Char) → Prop where
  | ok (value : α) (left : List Char) :
      Unified norm (.ok (value, left)) (.ok (norm value, unifyChars left))
  | error (first second : ε) : Unified norm (.error first) (.error second)

namespace Unified

variable {norm : α → α} {first second : Except ε (α × List Char)}

theorem outcomes (unified : Unified norm first second) :
    (∃ value left, first = .ok (value, left) ∧ second = .ok (norm value, unifyChars left)) ∨
      ∃ error other, first = .error error ∧ second = .error other := by
  cases unified with
  | ok value left => exact Or.inl ⟨value, left, rfl, rfl⟩
  | error error other => exact Or.inr ⟨error, other, rfl, rfl⟩

theorem read (unified : Unified norm first second) {value : α} {left : List Char}
    (same : first = .ok (value, left)) : second = .ok (norm value, unifyChars left) := by
  subst same
  cases unified
  rfl

theorem failed (unified : Unified norm first second) {stop : ε} (same : first = .error stop) :
    ∃ other, second = .error other := by
  subst same
  cases unified with
  | error _ other => exact ⟨other, rfl⟩

theorem of_eq {value unified : α} (same : norm value = unified) (left : List Char) :
    Unified norm (.ok (value, left) : Except ε _) (.ok (unified, unifyChars left)) :=
  same ▸ .ok value left

end Unified

/-- Why a scan fails makes no difference. -/
theorem unified_iff {norm : α → α} {first second : Except ε (α × List Char)} :
    Unified norm first second ↔
      second.toOption = first.toOption.map fun read => (norm read.1, unifyChars read.2) := by
  constructor
  · rintro (⟨value, left⟩ | _) <;> rfl
  · intro same
    cases first with
    | ok value =>
      rw [toOption_eq_some_iff.mp same]
      exact .ok value.1 value.2
    | error error =>
      obtain ⟨other, rfl⟩ := toOption_eq_none_iff.mp same
      exact .error error other

/-- Scans that go on from two that give the same, and that fail where those do. -/
theorem Unified.andThen {δ : Type} {norm : α → α} {norm' : β → β}
    {first second : Except ε (α × List Char)} {result result' : Except δ (β × List Char)}
    (unified : Unified norm first second)
    (failed : ∀ error, first = .error error → result.toOption = none)
    (failed' : ∀ error, second = .error error → result'.toOption = none)
    (read : ∀ value left, first = .ok (value, left) → second = .ok (norm value, unifyChars left) →
      Unified norm' result result') : Unified norm' result result' := by
  rcases unified.outcomes with ⟨value, left, first, second⟩ | ⟨error, other, first, second⟩
  · exact read value left first second
  · rw [unified_iff, failed error first, failed' other second]
    rfl

theorem Unified.mapError {norm : α → α} {first second : Except ε (α × List Char)}
    (unified : Unified norm first second) {δ : Type} (f : ε → δ) :
    Unified norm (first.mapError f) (second.mapError f) := by
  rw [unified_iff, toOption_mapError, toOption_mapError]
  exact unified_iff.mp unified

/-- A source starts with nothing, with a line ending, or with another character. -/
theorem unifyChars_cases (source : List Char) :
    source = [] ∨ (∃ rest, source = '\r' :: rest ∧ ∃ more, unifyChars source = '\n' :: unifyChars more) ∨
      ∃ c rest, source = c :: rest ∧ c ≠ '\r' ∧ unifyChars source = c :: unifyChars rest := by
  cases source with
  | nil => exact Or.inl rfl
  | cons c rest =>
    right
    by_cases isReturn : c = '\r'
    · subst isReturn
      refine Or.inl ⟨rest, rfl, ?_⟩
      by_cases feed : rest.head? = some '\n'
      · cases rest with
        | nil => cases feed
        | cons next more =>
          obtain rfl : next = '\n' := by simpa using feed
          exact ⟨more, rfl⟩
      · exact ⟨rest, unifyChars_return feed⟩
    · exact Or.inr ⟨c, rest, rfl, isReturn, unifyChars_cons isReturn rest⟩

/-! ## Runs of characters -/

/-- A character that is read in front of what is read next. -/
def consume (c : Char) : Except ε (List Char × List Char) → Except ε (List Char × List Char)
  | .ok (text, left) => .ok (c :: text, left)
  | .error error => .error error

theorem toOption_consume {c : Char} {first second : Except ε (List Char × List Char)}
    (same : first.toOption = second.toOption) :
    (consume c first).toOption = (consume c second).toOption := by
  cases first <;> cases second <;> simp_all [consume, Except.toOption]

theorem Unified.congr {norm : α → α} {first second first' second' : Except ε (α × List Char)}
    (unified : Unified norm first second) (left : first'.toOption = first.toOption)
    (right : second'.toOption = second.toOption) : Unified norm first' second' := by
  rw [unified_iff] at unified ⊢
  rw [right, unified, left]

theorem Unified.after {first second : Except ε (List Char × List Char)}
    (unified : Unified unifyChars first second) {c : Char} (notReturn : c ≠ '\r') :
    Unified unifyChars (consume c first) (consume c second) := by
  cases unified with
  | ok text left =>
    exact .of_eq (unifyChars_cons notReturn text) left
  | error first second => exact .error first second

/-- A scan of a run of characters. -/
structure Runs (f : List Char → Except ε (List Char × List Char)) : Prop where
  /-- What is read stands in front of the source. -/
  front : ∀ {source text left}, f source = .ok (text, left) → text <+: source
  /-- At the end of a source the run is over, or is not closed. -/
  ended : Unified unifyChars (f []) (f [])
  /-- The characters of a line ending are read one by one. -/
  breaks : ∀ {c}, isSpace c → c ≠ ' ' → ∀ rest,
    (f (c :: rest)).toOption = (consume c (f rest)).toOption

/-- A scan of a run passes over each line ending as a whole, if it does so after every other
character. -/
theorem Runs.unified {f : List Char → Except ε (List Char × List Char)} (runs : Runs f)
    (other : ∀ c rest, c ≠ '\r' → c ≠ '\n' →
      (∀ shorter : List Char, shorter.length ≤ rest.length →
        Unified unifyChars (f shorter) (f (unifyChars shorter))) →
      Unified unifyChars (f (c :: rest)) (f (c :: unifyChars rest)))
    (source : List Char) : Unified unifyChars (f source) (f (unifyChars source)) := by
  have feed (rest : List Char) := runs.breaks (show isSpace '\n' by decide) (by decide) rest
  have return_ (rest : List Char) := runs.breaks (show isSpace '\r' by decide) (by decide) rest
  induction size : source.length using Nat.strong_induction_on generalizing source with
  | _ size ih =>
    subst size
    cases source with
    | nil =>
      exact runs.ended
    | cons c rest =>
      have shorter : ∀ shorter : List Char, shorter.length ≤ rest.length →
          Unified unifyChars (f shorter) (f (unifyChars shorter)) := fun shorter atMost =>
        ih shorter.length (by simp; omega) shorter rfl
      have later := shorter rest (Nat.le_refl _)
      by_cases isReturn : c = '\r'
      · subst isReturn
        by_cases follows : rest.head? = some '\n'
        · -- The return and the line feed after it are read one by one, and are one line feed.
          obtain ⟨more, rfl⟩ := List.head?_eq_some_iff.mp follows
          have both : (f ('\r' :: '\n' :: more)).toOption =
              (consume '\r' (consume '\n' (f more))).toOption :=
            (return_ _).trans (toOption_consume (feed more))
          have inside := shorter more (by simp)
          refine Unified.congr ?_ both (feed _)
          generalize f more = first, f (unifyChars more) = second at inside
          cases inside with
          | ok text left => exact .ok ('\r' :: '\n' :: text) left
          | error first second => exact .error first second
        · rw [unifyChars_return follows]
          refine Unified.congr ?_ (return_ rest) (feed _)
          cases read : f rest with
          | error error =>
            obtain ⟨other, read'⟩ := later.failed read
            rw [read']
            exact .error error other
          | ok value =>
            obtain ⟨text, left⟩ := value
            have alone : text.head? ≠ some '\n' := by
              intro starts
              obtain ⟨more, rfl⟩ := List.head?_eq_some_iff.mp starts
              obtain ⟨others, rfl⟩ := runs.front read
              exact follows rfl
            rw [later.read read]
            exact .of_eq (unifyChars_return alone) left
      · rw [unifyChars_cons isReturn]
        by_cases isFeed : c = '\n'
        · subst isFeed
          exact (later.after (by decide)).congr (feed rest) (feed _)
        · exact other c rest isReturn isFeed shorter

/-- Past a character that is no line ending, both sources go on with it. -/
theorem exists_of_unifyChars_eq_cons {c : Char} (notFeed : c ≠ '\n') {source rest : List Char}
    (same : unifyChars source = c :: rest) : ∃ more, source = c :: more ∧ rest = unifyChars more := by
  rcases unifyChars_cases source with rfl | ⟨_, _, more, unified⟩ | ⟨d, more, rfl, _, unified⟩
  · cases same
  · rw [unified] at same
    exact absurd (List.cons.inj same).1.symm notFeed
  · rw [unified] at same
    obtain ⟨rfl, rfl⟩ := List.cons.inj same
    exact ⟨more, rfl, rfl⟩

/-- What stands in front of the unified source, and ends no line, stands in front of the source. -/
theorem front_of_unifyChars {mark source : List Char} (feeds : '\n' ∉ mark)
    (front : mark <+: unifyChars source) : mark <+: source := by
  induction mark generalizing source with
  | nil => exact List.nil_prefix
  | cons c rest ih =>
    obtain ⟨more, same⟩ := front
    have notFeed : c ≠ '\n' := fun same => feeds (same ▸ List.mem_cons_self)
    obtain ⟨others, rfl, later⟩ := exists_of_unifyChars_eq_cons notFeed same.symm
    exact (List.prefix_cons_inj c).mpr
      (ih (fun member => feeds (List.mem_cons_of_mem c member)) ⟨more, later⟩)

theorem not_front_unifyChars {mark rest : List Char} {c : Char} (other : ¬ mark <+: c :: rest)
    (notReturn : c ≠ '\r') (feeds : '\n' ∉ mark) : ¬ mark <+: c :: unifyChars rest :=
  fun front => other (front_of_unifyChars feeds (unifyChars_cons notReturn rest ▸ front))

/-- White space stays white space. -/
theorem exists_space_of_space {c : Char} (space : isSpace c) (rest : List Char) :
    ∃ d more, unifyChars (c :: rest) = d :: more ∧ isSpace d := by
  rcases unifyChars_cases (c :: rest) with same | ⟨_, _, more, same⟩ | ⟨_, more, here, _, same⟩
  · cases same
  · exact ⟨'\n', unifyChars more, same, by decide⟩
  · obtain ⟨rfl, rfl⟩ := List.cons.inj here
    exact ⟨c, unifyChars rest, same, space⟩

/-! ## Names and bodies -/

theorem name_unified (source : List Char) :
    Unified id (Scan.name .utf8 source) (Scan.name .utf8 (unifyChars source)) := by
  rcases unifyChars_cases source with rfl | ⟨rest, rfl, more, same⟩ | ⟨c, rest, rfl, _, same⟩
  · exact .error _ _
  · rw [same]
    exact .error _ _
  · rw [same, Scan.name, Scan.name]
    split
    next =>
      rw [Text.span_unifyChars_of_unbroken (by decide) (by decide)]
      exact .ok _ _
    next => exact .error _ _

theorem commentBody_cons {c : Char} {rest : List Char}
    (single : ¬ ['-', '-'] <+: c :: rest) :
    Scan.commentBody .utf8 (c :: rest) =
      if isDocumentChar c then consume c (Scan.commentBody .utf8 rest)
      else .error (.invalid (c :: rest)) := by
  rw [Scan.commentBody.eq_def]
  split
  next same => cases same
  next same => exact absurd ⟨_, same.symm⟩ single
  next same => exact absurd ⟨_, same.symm⟩ single
  next same => exact absurd ⟨_, same.symm⟩ single
  next same =>
    obtain ⟨rfl, rfl⟩ := List.cons.inj same
    cases Scan.commentBody .utf8 rest <;> rfl

theorem commentBody_runs : Runs (Scan.commentBody .utf8) where
  front read := ⟨_, (commentBody_of_scan read).1.symm⟩
  ended := .error _ _
  breaks space notBlank rest := by
    rw [commentBody_cons, if_pos (isDocumentChar_of_isSpace space)]
    rintro ⟨more, same⟩
    obtain ⟨rfl, _⟩ := List.cons.inj same
    exact absurd space (by decide)

theorem commentBody_unified (source : List Char) :
    Unified unifyChars (Scan.commentBody .utf8 source)
      (Scan.commentBody .utf8 (unifyChars source)) := by
  refine commentBody_runs.unified (fun c rest notReturn notFeed shorter => ?_) source
  by_cases dashes : ['-', '-'] <+: c :: rest
  · obtain ⟨more, same⟩ := dashes
    obtain ⟨rfl, rfl⟩ := List.cons.inj (show '-' :: '-' :: more = c :: rest from same)
    rw [unifyChars_cons (by decide)]
    rcases unifyChars_cases more with rfl | ⟨_, rfl, _, same⟩ | ⟨d, after, rfl, _, same⟩
    · exact .error _ _
    · rw [same]
      exact .error _ _
    · rw [same]
      by_cases closes : d = '>'
      · subst closes
        exact .ok [] after
      · rw [unified_iff]
        simp [Scan.commentBody, closes, Except.toOption]
  · rw [commentBody_cons dashes, commentBody_cons (not_front_unifyChars dashes notReturn (by decide))]
    split
    next => exact (shorter rest (Nat.le_refl _)).after notReturn
    next => exact .error _ _

theorem comment_unified (source : List Char) :
    Unified unifyChars (Scan.comment .utf8 source) (Scan.comment .utf8 (unifyChars source)) := by
  rcases unifyChars_cases source with rfl | ⟨rest, rfl, more, same⟩ | ⟨c, rest, rfl, _, same⟩
  · exact .error _ _
  · rw [same]
    exact .error _ _
  · rw [same]
    by_cases dash : c = '-'
    · subst dash
      exact commentBody_unified rest
    · rw [unified_iff]
      simp [Scan.comment, dash, Except.toOption]

theorem instructionBody_cons {c : Char} {rest : List Char}
    (single : ¬ ['?', '>'] <+: c :: rest) :
    Scan.instructionBody .utf8 (c :: rest) =
      if isDocumentChar c then consume c (Scan.instructionBody .utf8 rest)
      else .error (.invalid (c :: rest)) := by
  rw [Scan.instructionBody.eq_def]
  split
  next same => cases same
  next same => exact absurd ⟨_, same.symm⟩ single
  next same =>
    obtain ⟨rfl, rfl⟩ := List.cons.inj same
    cases Scan.instructionBody .utf8 rest <;> rfl

theorem instructionBody_runs : Runs (Scan.instructionBody .utf8) where
  front read := ⟨_, (instructionBody_of_scan read).1.symm⟩
  ended := .error _ _
  breaks space notBlank rest := by
    rw [instructionBody_cons, if_pos (isDocumentChar_of_isSpace space)]
    rintro ⟨more, same⟩
    obtain ⟨rfl, _⟩ := List.cons.inj same
    exact absurd space (by decide)

theorem instructionBody_unified (source : List Char) :
    Unified unifyChars (Scan.instructionBody .utf8 source)
      (Scan.instructionBody .utf8 (unifyChars source)) := by
  refine instructionBody_runs.unified (fun c rest notReturn notFeed shorter => ?_) source
  by_cases closes : ['?', '>'] <+: c :: rest
  · obtain ⟨more, same⟩ := closes
    obtain ⟨rfl, rfl⟩ := List.cons.inj (show '?' :: '>' :: more = c :: rest from same)
    rw [unifyChars_cons (by decide)]
    exact .ok [] more
  · rw [instructionBody_cons closes,
      instructionBody_cons (not_front_unifyChars closes notReturn (by decide))]
    split
    next => exact (shorter rest (Nat.le_refl _)).after notReturn
    next => exact .error _ _

/-- White space after the target of an instruction is a part of its body. -/
theorem instruction_of_space {source target after : List Char} {c : Char} (space : isSpace c)
    (named : Scan.name .utf8 source = .ok (target, c :: after)) :
    (Scan.instruction .utf8 source).toOption =
      if Scan.isReservedTarget target then none
      else (Scan.instructionBody .utf8 (c :: after)).toOption.map fun read =>
        ((target, read.1), read.2) := by
  have unmarked : ¬ ['?', '>'] <+: c :: after := by
    rintro ⟨more, same⟩
    obtain ⟨rfl, _⟩ := List.cons.inj same
    exact absurd space (by decide)
  rw [instructionBody_cons unmarked, if_pos (isDocumentChar_of_isSpace space)]
  unfold Scan.instruction
  rw [named]
  dsimp only
  rw [if_pos space]
  split
  next => rfl
  next => cases Scan.instructionBody .utf8 after <;> rfl

/-- The target of an instruction stays as it is. -/
theorem instruction_unified (source : List Char) :
    Unified (fun read => (read.1, unifyChars read.2)) (Scan.instruction .utf8 source)
      (Scan.instruction .utf8 (unifyChars source)) := by
  rcases (name_unified source).outcomes with ⟨target, rest, named, named'⟩ | ⟨_, _, named, named'⟩
  · by_cases spaced : ∃ c after, rest = c :: after ∧ isSpace c
    · obtain ⟨c, after, rfl, space⟩ := spaced
      obtain ⟨d, more, same, space'⟩ := exists_space_of_space space after
      have first := instruction_of_space space named
      have second := instruction_of_space space' (named'.trans (by rw [same]))
      rw [← same] at second
      rw [unified_iff, first, second, unified_iff.mp (instructionBody_unified (c :: after))]
      dsimp only [id]
      split
      next => rfl
      next => cases Scan.instructionBody .utf8 (c :: after) <;> rfl
    · unfold Scan.instruction
      rw [named, named']
      rcases unifyChars_cases rest with rfl | ⟨after, rfl, _, same⟩ | ⟨c, after, rfl, _, same⟩
      · exact .error _ _
      · exact absurd ⟨'\r', after, rfl, by decide⟩ spaced
      · have notSpace : ¬ isSpace c := fun space => spaced ⟨c, after, rfl, space⟩
        rw [same]
        dsimp only [id]
        rw [if_neg notSpace, if_neg notSpace]
        split
        next =>
          split
          next => exact .error _ _
          next =>
            rcases unifyChars_cases after with rfl | ⟨_, rfl, _, same⟩ | ⟨d, left, rfl, _, same⟩
            · exact .error _ _
            · rw [same]
              exact .error _ _
            · rw [same]
              by_cases closes : d = '>'
              · subst closes
                exact .ok (target, []) left
              · rw [unified_iff]
                simp [closes, Except.toOption]
        next => exact .error _ _
  · unfold Scan.instruction
    rw [named, named']
    exact .error _ _

/-! ## References -/

theorem moreDigits_unified {isDigit : Char → Bool} (notReturn : isDigit '\r' = false)
    (notFeed : isDigit '\n' = false) (source : List Char) :
    Unified id (Scan.moreDigits .utf8 isDigit source)
      (Scan.moreDigits .utf8 isDigit (unifyChars source)) := by
  unfold Scan.moreDigits
  rw [Text.span_unifyChars_of_unbroken notReturn notFeed]
  obtain ⟨digits, rest⟩ := source.span isDigit
  dsimp only
  rcases unifyChars_cases rest with rfl | ⟨_, rfl, _, same⟩ | ⟨c, left, rfl, _, same⟩
  · exact .error _ _
  · rw [same]
    exact .error _ _
  · rw [same]
    by_cases closes : c = ';'
    · subst closes
      exact .ok digits left
    · rw [unified_iff]
      simp [closes, Except.toOption]

theorem characterNumber_unified (source : List Char) :
    Unified id (Scan.characterNumber .utf8 source)
      (Scan.characterNumber .utf8 (unifyChars source)) := by
  rcases unifyChars_cases source with rfl | ⟨_, rfl, _, same⟩ | ⟨c, rest, rfl, _, same⟩
  · exact .error _ _
  · rw [same]
    exact .error _ _
  · rw [same]
    by_cases hexadecimal : c = 'x'
    · subst hexadecimal
      rcases unifyChars_cases rest with rfl | ⟨_, rfl, _, same⟩ | ⟨d, after, rfl, _, same⟩
      · exact .error _ _
      · rw [same]
        exact .error _ _
      · rw [same, unified_iff, Scan.characterNumber, Scan.characterNumber]
        split
        next =>
          have more := @moreDigits_unified Scan.isHexDigit (by decide) (by decide) after
          rcases more.outcomes with ⟨_, _, first, second⟩ | ⟨_, _, first, second⟩
          · rw [first, second]
            rfl
          · rw [first, second]
            rfl
        next => rfl
    · have number (rest : List Char) : Scan.characterNumber .utf8 (c :: rest) =
          if isAsciiDigit c then consume c (Scan.moreDigits .utf8 isAsciiDigit rest)
          else .error (.invalid (c :: rest)) := by
        rw [Scan.characterNumber.eq_def]
        split
        next same => cases same
        next same => exact absurd (List.cons.inj same).1 hexadecimal
        next same =>
          obtain ⟨rfl, rfl⟩ := List.cons.inj same
          cases Scan.moreDigits .utf8 isAsciiDigit rest <;> rfl
      rw [number, number, unified_iff]
      split
      next =>
        have more := @moreDigits_unified isAsciiDigit (by decide) (by decide) rest
        rcases more.outcomes with ⟨_, _, first, second⟩ | ⟨_, _, first, second⟩
        · rw [first, second]
          rfl
        · rw [first, second]
          rfl
      next => rfl

theorem reference_of_name {source : List Char} (unmarked : source.head? ≠ some '#') :
    Scan.reference .utf8 source =
      match Scan.name .utf8 source with
      | .error stop => .error stop
      | .ok (_, []) => .error .unclosed
      | .ok (entity, ';' :: left) => .ok (.entity entity, left)
      | .ok (_, rest) => .error (.invalid rest) := by
  rw [Scan.reference.eq_def]
  split
  next => exact absurd rfl unmarked
  next => rfl

theorem reference_unified (source : List Char) :
    Unified id (Scan.reference .utf8 source) (Scan.reference .utf8 (unifyChars source)) := by
  by_cases numbered : source.head? = some '#'
  · obtain ⟨rest, rfl⟩ := List.head?_eq_some_iff.mp numbered
    rw [unifyChars_cons (by decide), unified_iff, Scan.reference, Scan.reference]
    rcases (characterNumber_unified rest).outcomes with ⟨_, _, first, second⟩ | ⟨_, _, first, second⟩
    · rw [first, second]
      rfl
    · rw [first, second]
      rfl
  · have numbered' : (unifyChars source).head? ≠ some '#' := by
      intro starts
      obtain ⟨rest, same⟩ := List.head?_eq_some_iff.mp starts
      obtain ⟨more, rfl, _⟩ := exists_of_unifyChars_eq_cons (by decide) same
      exact numbered rfl
    rw [reference_of_name numbered, reference_of_name numbered']
    refine (name_unified source).andThen (fun _ failed => by rw [failed]; rfl)
      (fun _ failed => by rw [failed]; rfl) fun name rest first second => ?_
    rw [first, second]
    rcases unifyChars_cases rest with rfl | ⟨_, rfl, _, same⟩ | ⟨c, left, rfl, _, same⟩
    · exact .error _ _
    · rw [same]
      exact .error _ _
    · rw [same]
      by_cases closes : c = ';'
      · subst closes
        exact .ok (Token.entity name) left
      · rw [unified_iff]
        simp [closes, Except.toOption]

/-- The source of a reference holds no line ending, and stands in front of both sources. -/
theorem exists_of_reference {source left : List Char} {token : Token}
    (read : Scan.reference .utf8 source = .ok (token, left)) :
    Scan.reference .utf8 (unifyChars source) = .ok (token, unifyChars left) ∧
      ∃ lexeme, token.lexeme = '&' :: lexeme ∧ source = lexeme ++ left ∧
        unifyChars source = lexeme ++ unifyChars left := by
  have unified : Scan.reference .utf8 (unifyChars source) = .ok (token, unifyChars left) :=
    (reference_unified source).read read
  have starts : ∃ lexeme, token.lexeme = '&' :: lexeme := by
    rcases (reference_of_scan read).2 with ⟨digits, rfl⟩ | ⟨name, rfl⟩
    · exact ⟨_, lexeme_character digits⟩
    · exact ⟨_, lexeme_entity name⟩
  obtain ⟨lexeme, same⟩ := starts
  have first := (reference_of_scan read).1
  have second := (reference_of_scan unified).1
  rw [same] at first second
  exact ⟨unified, lexeme, same, (List.cons.inj first).2, (List.cons.inj second).2⟩

/-- What is skipped after the sign of a reference is the same in both sources. -/
theorem exists_skip_of_reference {source left : List Char} {token : Token}
    (read : Scan.reference .utf8 source = .ok (token, left)) :
    Scan.reference .utf8 (unifyChars source) = .ok (token, unifyChars left) ∧
      ∃ skipped, token.lexeme.length - 1 = skipped.length ∧ source = skipped ++ left ∧
        unifyChars source = skipped ++ unifyChars left ∧ left.length ≤ source.length := by
  obtain ⟨unified, lexeme, same, front, front'⟩ := exists_of_reference read
  refine ⟨unified, lexeme, by simp [same], front, front', ?_⟩
  rw [front, List.length_append]
  exact Nat.le_add_left _ _

/-! ## Attributes -/

theorem Unified.front {first second : Except ε (List Char × List Char)}
    (unified : Unified unifyChars first second) {lead : List Char} (returns : '\r' ∉ lead) :
    Unified unifyChars (lead.foldr consume first) (lead.foldr consume second) := by
  induction lead with
  | nil => exact unified
  | cons c rest ih =>
    exact (ih fun member => returns (List.mem_cons_of_mem c member)).after
      fun same => returns (same ▸ List.mem_cons_self)

/-- The characters that are passed over are a part of the value. -/
theorem attributeValue_front (quote : Char) (lead rest : List Char) :
    Scan.attributeValue .utf8 quote lead.length (lead ++ rest) =
      lead.foldr consume (Scan.attributeValue .utf8 quote 0 rest) := by
  induction lead with
  | nil => rfl
  | cons c more ih =>
    rw [List.length_cons, List.cons_append, Scan.attributeValue, ih, List.foldr_cons]
    cases more.foldr consume (Scan.attributeValue .utf8 quote 0 rest) <;> rfl

theorem attributeValue_cons (quote : Char) {c : Char} (unmarked : c ≠ '&') (rest : List Char) :
    Scan.attributeValue .utf8 quote 0 (c :: rest) =
      if c = quote then .ok ([], rest)
      else if c = '<' || !isDocumentChar c then .error (.invalid (c :: rest))
      else consume c (Scan.attributeValue .utf8 quote 0 rest) := by
  rw [Scan.attributeValue]
  simp only [unmarked, if_false]
  cases Scan.attributeValue .utf8 quote 0 rest <;> rfl

theorem attributeValue_reference {quote : Char} (unmarked : '&' ≠ quote) {source left : List Char}
    {token : Token} (read : Scan.reference .utf8 source = .ok (token, left)) {lexeme : List Char}
    (same : token.lexeme = '&' :: lexeme) (front : source = lexeme ++ left) :
    Scan.attributeValue .utf8 quote 0 ('&' :: source) =
      token.lexeme.foldr consume (Scan.attributeValue .utf8 quote 0 left) := by
  have skipped : token.lexeme.length - 1 = lexeme.length := by rw [same]; rfl
  rw [Scan.attributeValue, if_neg unmarked, if_neg (by decide), if_pos rfl, read]
  dsimp only
  rw [skipped, same, front, attributeValue_front, List.foldr_cons]
  cases lexeme.foldr consume (Scan.attributeValue .utf8 quote 0 left) <;> rfl

theorem attributeValue_runs {quote : Char} (quoted : quote = '"' ∨ quote = '\'') :
    Runs (Scan.attributeValue .utf8 quote 0) where
  front read := ⟨_, (attributeValue_of_scan read).symm⟩
  ended := .error _ _
  breaks := by
    intro c space notBlank rest
    have plain : c ≠ '&' ∧ c ≠ quote ∧ c ≠ '<' := by
      rcases isSpace_iff.mp space with rfl | rfl | rfl | rfl <;> rcases quoted with rfl | rfl <;>
        decide
    rw [attributeValue_cons quote plain.1, if_neg plain.2.1, if_neg]
    simp [plain.2.2, isDocumentChar_of_isSpace space]

theorem attributeValue_unified {quote : Char} (quoted : quote = '"' ∨ quote = '\'')
    (source : List Char) :
    Unified unifyChars (Scan.attributeValue .utf8 quote 0 source)
      (Scan.attributeValue .utf8 quote 0 (unifyChars source)) := by
  have unmarked : '&' ≠ quote := by rcases quoted with rfl | rfl <;> decide
  refine (attributeValue_runs quoted).unified (fun c rest notReturn notFeed shorter => ?_) source
  by_cases refers : c = '&'
  · subst refers
    cases read : Scan.reference .utf8 rest with
    | error stop =>
      obtain ⟨other, read'⟩ := (reference_unified rest).failed read
      rw [unified_iff, Scan.attributeValue, Scan.attributeValue, read, read', if_neg unmarked,
        if_neg unmarked]
      rfl
    | ok value =>
      obtain ⟨token, left⟩ := value
      obtain ⟨unified, lexeme, same, front, front'⟩ := exists_of_reference read
      rw [attributeValue_reference unmarked read same front,
        attributeValue_reference unmarked unified same front']
      have atMost : left.length ≤ rest.length := by simp [front]
      refine (shorter left atMost).front ?_
      rw [same, List.mem_cons, not_or]
      refine ⟨by decide, fun member => returns_not_mem_unifyChars rest ?_⟩
      rw [front']
      exact List.mem_append_left _ member
  · rw [attributeValue_cons quote refers, attributeValue_cons quote refers]
    split
    next => exact .ok [] rest
    next =>
      split
      next => exact .error _ _
      next => exact (shorter rest (Nat.le_refl _)).after notReturn

theorem spaces_unifyChars (source : List Char) :
    Scan.spaces (unifyChars source) =
      (unifyChars (Scan.spaces source).1, unifyChars (Scan.spaces source).2) :=
  Text.span_unifyChars_of_breaks (by decide) (by decide) source

theorem dropSpaces_unifyChars (source : List Char) :
    (unifyChars source).dropWhile isSpace = unifyChars (source.dropWhile isSpace) := by
  have split := spaces_unifyChars source
  simp only [Scan.spaces, List.span_eq_takeWhile_dropWhile] at split
  exact (Prod.mk.inj split).2

theorem equalsSign_unified (source : List Char) :
    Unified unifyChars (Scan.equalsSign .utf8 source)
      (Scan.equalsSign .utf8 (unifyChars source)) := by
  unfold Scan.equalsSign
  rw [spaces_unifyChars]
  obtain ⟨before, rest⟩ := Scan.spaces source
  dsimp only
  rcases unifyChars_cases rest with rfl | ⟨_, rfl, _, same⟩ | ⟨c, after, rfl, _, same⟩
  · exact .error _ _
  · rw [same]
    exact .error _ _
  · rw [same]
    by_cases equals : c = '='
    · subst equals
      have middle (between : List Char) : unifyChars (before ++ '=' :: between) =
          unifyChars before ++ '=' :: unifyChars between := by
        rw [Text.unifyChars_append_of_head? (by simp), unifyChars_cons (by decide)]
      rw [unified_iff]
      simp [Except.toOption, spaces_unifyChars, middle]
    · rw [unified_iff]
      simp [equals, Except.toOption]

/-- An attribute in whose source line endings are unified. -/
def RawAttribute.unified (a : RawAttribute) : RawAttribute :=
  { a with lead := unifyChars a.lead, middle := unifyChars a.middle, value := unifyChars a.value }

theorem rawAttribute_unified (lead source : List Char) :
    Unified RawAttribute.unified (Scan.rawAttribute .utf8 lead source)
      (Scan.rawAttribute .utf8 (unifyChars lead) (unifyChars source)) := by
  unfold Scan.rawAttribute
  refine (name_unified source).andThen (fun _ failed => by rw [failed]; rfl)
    (fun _ failed => by rw [failed]; rfl) fun name rest first second => ?_
  rw [first, second]
  dsimp only [id]
  refine (equalsSign_unified rest).andThen (fun _ failed => by rw [failed]; rfl)
    (fun _ failed => by rw [failed]; rfl) fun middle rest first second => ?_
  rw [first, second]
  rcases unifyChars_cases rest with rfl | ⟨_, rfl, _, same⟩ | ⟨quote, after, rfl, _, same⟩
  · exact .error _ _
  · rw [same]
    exact .error _ _
  · rw [same]
    dsimp only
    split
    next quoted =>
      have inside := attributeValue_unified (by simpa using quoted) after
      refine inside.andThen (fun _ failed => by rw [failed]; rfl)
        (fun _ failed => by rw [failed]; rfl) fun value left first second => ?_
      rw [first, second]
      exact .ok (⟨lead, name, middle, quote, value⟩ : RawAttribute) left
    next => exact .error _ _

theorem tagEnd_unified (source : List Char) :
    Unified id (Scan.tagEnd .utf8 source) (Scan.tagEnd .utf8 (unifyChars source)) := by
  rcases unifyChars_cases source with rfl | ⟨_, rfl, _, same⟩ | ⟨c, rest, rfl, _, same⟩
  · exact .error _ _
  · rw [same]
    exact .error _ _
  · rw [same]
    by_cases closes : c = '>'
    · subst closes
      exact .ok false rest
    · by_cases solidus : c = '/'
      · subst solidus
        rcases unifyChars_cases rest with rfl | ⟨_, rfl, _, same⟩ | ⟨d, left, rfl, _, same⟩
        · exact .error _ _
        · rw [same]
          exact .error _ _
        · rw [same]
          by_cases closes : d = '>'
          · subst closes
            exact .ok true left
          · rw [unified_iff]
            simp [Scan.tagEnd, closes, Except.toOption]
      · rw [unified_iff]
        simp [Scan.tagEnd, closes, solidus, Except.toOption]

theorem length_spaces_le (source : List Char) : (Scan.spaces source).2.length ≤ source.length := by
  rw [Scan.spaces, List.span_eq_takeWhile_dropWhile]
  exact (List.dropWhile_suffix _).length_le

theorem length_lt_of_rawAttribute {context : Context} {lead source left : List Char}
    {a : RawAttribute} (read : Scan.rawAttribute context lead source = .ok (a, left)) :
    left.length < source.length := by
  obtain ⟨rfl, whole⟩ := rawAttribute_of_scan read
  have lengths := congrArg List.length whole
  simp only [RawAttribute.lexeme, List.length_append, List.length_cons, List.length_nil] at lengths
  omega

theorem attributes_unified (first : Bool) {room room' : Nat} {source : List Char}
    (enough : source.length < room) (enough' : (unifyChars source).length < room') :
    Unified (fun read => (read.1.map RawAttribute.unified, unifyChars read.2.1, read.2.2))
      (Scan.attributes .utf8 first room source)
      (Scan.attributes .utf8 first room' (unifyChars source)) := by
  induction room generalizing first room' source with
  | zero => exact absurd enough (Nat.not_lt_zero _)
  | succ room ih =>
    cases room' with
    | zero => exact absurd enough' (Nat.not_lt_zero _)
    | succ room' =>
      have shorter := length_spaces_le source
      have shorter' := length_spaces_le (unifyChars source)
      unfold Scan.attributes
      rw [spaces_unifyChars] at shorter' ⊢
      generalize Scan.spaces source = parts at shorter shorter' ⊢
      obtain ⟨lead, rest⟩ := parts
      dsimp only at shorter shorter' ⊢
      rw [Text.isEmpty_unifyChars]
      rcases unifyChars_cases rest with rfl | ⟨_, rfl, _, same⟩ | ⟨c, after, rfl, _, same⟩
      · exact .error _ _
      · rw [same]
        dsimp only
        rw [if_neg (show ¬ (decide ('\r' = '>') || decide ('\r' = '/')) = true by decide),
          if_neg (show ¬ (decide ('\n' = '>') || decide ('\n' = '/')) = true by decide)]
        split
        next => exact .error _ _
        next => exact .error _ _
      · have closing := tagEnd_unified (c :: after)
        have named := rawAttribute_unified lead (c :: after)
        rw [same] at closing named shorter' ⊢
        dsimp only
        split
        next =>
          refine closing.andThen (fun _ failed => by rw [failed]; rfl)
            (fun _ failed => by rw [failed]; rfl) fun empty left first second => ?_
          rw [first, second]
          exact .ok (([], lead, empty) : List RawAttribute × List Char × Bool) left
        next =>
          split
          next => exact .error _ _
          next =>
            refine named.andThen (fun _ failed => by rw [failed]; rfl)
              (fun _ failed => by rw [failed]; rfl) fun a left first second => ?_
            rw [first, second]
            have less := length_lt_of_rawAttribute first
            have less' := length_lt_of_rawAttribute second
            have later := @ih false room' left (by omega) (by omega)
            refine later.andThen (fun _ failed => by simp only [failed]; rfl)
              (fun _ failed => by simp only [failed]; rfl) fun read left first second => ?_
            simp only [first, second]
            exact .ok ((a :: read.1, read.2) : List RawAttribute × List Char × Bool) left

end MemberDocs.Xml
