import MemberDocs.Proofs.Xml.LineEndings.Scans

/-! # Tokens of a source with unified line endings

A source and the source with its line endings unified are cut into the same tokens, apart from the
line endings in the tokens (`Token.unified`). A text that ends in a return at the end of the source is
the one exception (`scan_unified`): only with the return is it refused there, and without it the
source ends where an end tag is missing.
-/

namespace MemberDocs.Xml

open Text (unifyChars unifyChars_cons unifyChars_return returns_not_mem_unifyChars)

/-- A token in whose source line endings are unified. -/
def Token.unified : Token → Token
  | .text source => .text (unifyChars source)
  | .cdata source => .cdata (unifyChars source)
  | .startTag name attributes trail empty =>
    .startTag name (attributes.map RawAttribute.unified) (unifyChars trail) empty
  | .endTag name trail => .endTag name (unifyChars trail)
  | .comment body => .comment (unifyChars body)
  | .instruction target body => .instruction target (unifyChars body)
  | token => token

theorem startTag_unified (source : List Char) :
    Unified Token.unified (Scan.startTag .utf8 source) (Scan.startTag .utf8 (unifyChars source)) := by
  unfold Scan.startTag
  refine (name_unified source).andThen (fun _ failed => by rw [failed]; rfl)
    (fun _ failed => by rw [failed]; rfl) fun name rest first second => ?_
  rw [first, second]
  dsimp only [id]
  have inside := @attributes_unified true (rest.length + 1) ((unifyChars rest).length + 1) rest
    (Nat.lt_succ_self _) (Nat.lt_succ_self _)
  refine inside.andThen (fun _ failed => by rw [failed]; rfl)
    (fun _ failed => by rw [failed]; rfl) fun read left first second => ?_
  rw [first, second]
  exact .ok (Token.startTag name read.1 read.2.1 read.2.2) left

theorem endTag_unified (source : List Char) :
    Unified Token.unified (Scan.endTag .utf8 source) (Scan.endTag .utf8 (unifyChars source)) := by
  unfold Scan.endTag
  refine (name_unified source).andThen (fun _ failed => by rw [failed]; rfl)
    (fun _ failed => by rw [failed]; rfl) fun name rest first second => ?_
  rw [first, second]
  dsimp only [id]
  rw [spaces_unifyChars]
  obtain ⟨trail, rest⟩ := Scan.spaces rest
  dsimp only
  rcases unifyChars_cases rest with rfl | ⟨_, rfl, _, same⟩ | ⟨c, left, rfl, _, same⟩
  · exact .error _ _
  · rw [same]
    exact .error _ _
  · rw [same]
    by_cases closes : c = '>'
    · subst closes
      exact .ok (Token.endTag name trail) left
    · rw [unified_iff]
      simp [closes, Except.toOption]

/-! ## Sections -/

theorem cdataBody_cons {c : Char} {rest : List Char}
    (single : ¬ [']', ']', '>'] <+: c :: rest) :
    (cdataBody .utf8 (c :: rest)).toOption =
      if isDocumentChar c then (consume c (cdataBody .utf8 rest)).toOption else none := by
  rw [cdataBody.eq_def]
  split
  next same => cases same
  next same => exact absurd ⟨_, same.symm⟩ single
  next same =>
    obtain ⟨rfl, rfl⟩ := List.cons.inj same
    split
    next cut =>
      -- The brackets that are left do not close the section.
      have unclosed : ∃ snag, cdataBody .utf8 rest = .error snag := by
        simp only [Context.utf8_ending, Ending.isDone, Bool.and_true, Bool.or_eq_true,
          Bool.and_eq_true, decide_eq_true_eq] at cut
        rcases cut with ⟨_, rfl | rfl⟩ | ⟨_, rfl⟩
        · exact ⟨_, rfl⟩
        · exact ⟨_, rfl⟩
        · exact ⟨_, rfl⟩
      obtain ⟨snag, failed⟩ := unclosed
      rw [failed]
      split
      next => rfl
      next => rfl
    next =>
      split
      next => cases cdataBody .utf8 rest <;> rfl
      next => rfl

theorem cdataBody_runs : Runs (cdataBody .utf8) where
  front read := ⟨_, (cdataBody_of_scan read).symm⟩
  ended := .error _ _
  breaks space notBlank rest := by
    rw [cdataBody_cons, if_pos (isDocumentChar_of_isSpace space)]
    rintro ⟨more, same⟩
    obtain ⟨rfl, _⟩ := List.cons.inj same
    exact absurd space (by decide)

theorem cdataBody_unified (source : List Char) :
    Unified unifyChars (cdataBody .utf8 source) (cdataBody .utf8 (unifyChars source)) := by
  refine cdataBody_runs.unified (fun c rest notReturn notFeed shorter => ?_) source
  by_cases closes : [']', ']', '>'] <+: c :: rest
  · obtain ⟨more, same⟩ := closes
    obtain ⟨rfl, rfl⟩ := List.cons.inj (show ']' :: ']' :: '>' :: more = c :: rest from same)
    rw [unifyChars_cons (by decide), unifyChars_cons (by decide)]
    exact .ok [] more
  · rw [unified_iff, cdataBody_cons closes,
      cdataBody_cons (not_front_unifyChars closes notReturn (by decide))]
    split
    next => exact unified_iff.mp ((shorter rest (Nat.le_refl _)).after notReturn)
    next => rfl

theorem cdataSection_of_mark (rest : List Char) :
    cdataSection .utf8 (cdataMark ++ rest) =
      match cdataBody .utf8 rest with
      | .error snag => .error snag
      | .ok (body, left) => .ok (.cdata body, left) := by
  have mark : cdataMark = ['C', 'D', 'A', 'T', 'A', '['] := by decide
  have long : ¬ rest.length + 1 + 1 + 1 + 1 + 1 + 1 < 6 := by omega
  unfold cdataSection
  simp only [mark, List.cons_append, List.nil_append, List.length_cons, long, decide_false,
    Bool.false_and, Bool.false_eq_true, if_false, List.zip_cons_cons, List.zip_nil_right,
    List.takeWhile_cons, decide_true, if_true, List.takeWhile_nil, List.length_nil, List.drop_succ_cons,
    List.drop_zero]
  rfl

theorem cdataSection_of_other {source : List Char} (other : ¬ cdataMark <+: source) :
    ∃ snag, cdataSection .utf8 source = .error snag := by
  unfold cdataSection
  dsimp only
  split
  next => exact ⟨_, rfl⟩
  next =>
    split
    next => exact ⟨_, rfl⟩
    next agreed =>
      have front := @eq_mark_of_agreed cdataMark source (by
        rw [show cdataMark.length = 6 from rfl]
        omega)
      exact absurd ⟨_, front.symm⟩ other

theorem cdataSection_unified (source : List Char) :
    Unified Token.unified (cdataSection .utf8 source)
      (cdataSection .utf8 (unifyChars source)) := by
  by_cases marked : cdataMark <+: source
  · obtain ⟨rest, rfl⟩ := marked
    rw [Text.unifyChars_append (by decide), cdataSection_of_mark, cdataSection_of_mark]
    refine (cdataBody_unified rest).andThen (fun _ failed => by rw [failed]; rfl)
      (fun _ failed => by rw [failed]; rfl) fun body left first second => ?_
    rw [first, second]
    exact .ok (Token.cdata body) left
  · have marked' : ¬ cdataMark <+: unifyChars source := fun front =>
      marked (front_of_unifyChars (by decide) front)
    obtain ⟨snag, first⟩ := cdataSection_of_other marked
    obtain ⟨other, second⟩ := cdataSection_of_other marked'
    rw [first, second]
    exact .error snag other

/-! ## Texts -/

/-- A source that may go on, so that a return at its end is a character like others. -/
def Context.growing : Context := ⟨.utf8, .truncated 1⟩

theorem textRun_cons {context : Context} (even : context.ending ≠ .oddByte) {c : Char}
    {rest : List Char} (single : ¬ [']', ']', '>'] <+: c :: rest) (unmarked : ¬ (c = '<' ∨ c = '&'))
    (goesOn : ¬ (context.ending.isDone ∧ c = '\r' ∧ rest = [])) :
    textRun context (c :: rest) =
      if isDocumentChar c then consume c (textRun context rest)
      else .error ⟨.invalidToken, some (c :: rest)⟩ := by
  rw [textRun.eq_def]
  split
  next same => cases same
  next same => exact absurd ⟨_, same.symm⟩ single
  next same =>
    obtain ⟨rfl, rfl⟩ := List.cons.inj same
    rw [if_neg (by simpa using unmarked), if_neg, if_neg (by simp [even])]
    · split
      next => cases textRun context rest <;> rfl
      next => rfl
    · intro last
      simp only [Bool.and_eq_true, decide_eq_true_eq] at last
      exact goesOn ⟨last.2, last.1.1⟩

theorem textRun_growing_cons {c : Char} {rest : List Char}
    (single : ¬ [']', ']', '>'] <+: c :: rest) (unmarked : ¬ (c = '<' ∨ c = '&')) :
    textRun .growing (c :: rest) =
      if isDocumentChar c then consume c (textRun .growing rest)
      else .error ⟨.invalidToken, some (c :: rest)⟩ :=
  textRun_cons (by decide) single unmarked fun last => absurd last.1 (by decide)

theorem textRun_mark {context : Context} {c : Char} (mark : c = '<' ∨ c = '&') (rest : List Char) :
    textRun context (c :: rest) = .ok ([], c :: rest) := by
  rw [textRun.eq_def]
  split
  next same => cases same
  next same =>
    obtain ⟨rfl, _⟩ := List.cons.inj same
    rcases mark with same | same <;> cases same
  next same =>
    obtain ⟨rfl, rfl⟩ := List.cons.inj same
    rw [if_pos (by simpa using mark)]

/-- Only a return at the end of a source is read otherwise where the source may go on. -/
theorem textRun_growing (source : List Char) :
    textRun .growing source = textRun .utf8 source ∨
      '\r' ∈ source ∧ ∃ snag text, textRun .utf8 source = .error snag ∧
        textRun .growing source = .ok (text, []) := by
  induction source with
  | nil => exact Or.inl rfl
  | cons c rest ih =>
    by_cases closes : [']', ']', '>'] <+: c :: rest
    · obtain ⟨more, same⟩ := closes
      rw [← same]
      exact Or.inl rfl
    · by_cases marks : c = '<' ∨ c = '&'
      · rw [textRun_mark marks, textRun_mark marks]
        exact Or.inl rfl
      · by_cases last : c = '\r' ∧ rest = []
        · obtain ⟨rfl, rfl⟩ := last
          exact Or.inr ⟨List.mem_cons_self, _, ['\r'], rfl, rfl⟩
        · rw [textRun_growing_cons closes marks,
            @textRun_cons .utf8 (by decide) c rest closes marks fun done => last done.2]
          split
          next =>
            rcases ih with same | ⟨member, snag, text, refused, read⟩
            · rw [same]
              exact Or.inl rfl
            · rw [refused, read]
              exact Or.inr ⟨List.mem_cons_of_mem c member, snag, c :: text, rfl, rfl⟩
          next => exact Or.inl rfl

theorem textRun_runs : Runs (textRun .growing) where
  front read := ⟨_, (textRun_of_scan read).symm⟩
  ended := .ok [] []
  breaks := by
    intro c space notBlank rest
    have plain : c ≠ ']' ∧ ¬ (c = '<' ∨ c = '&') := by
      rcases isSpace_iff.mp space with rfl | rfl | rfl | rfl <;> decide
    rw [textRun_growing_cons _ plain.2, if_pos (isDocumentChar_of_isSpace space)]
    rintro ⟨more, same⟩
    exact plain.1 (List.cons.inj same).1.symm

theorem textRun_unified (source : List Char) :
    Unified unifyChars (textRun .growing source) (textRun .growing (unifyChars source)) := by
  refine textRun_runs.unified (fun c rest notReturn notFeed shorter => ?_) source
  by_cases closes : [']', ']', '>'] <+: c :: rest
  · obtain ⟨more, same⟩ := closes
    obtain ⟨rfl, rfl⟩ := List.cons.inj (show ']' :: ']' :: '>' :: more = c :: rest from same)
    exact .error _ _
  · by_cases marks : c = '<' ∨ c = '&'
    · rw [textRun_mark marks, textRun_mark marks, ← unifyChars_cons notReturn]
      exact .ok [] (c :: rest)
    · rw [textRun_growing_cons closes marks,
        textRun_growing_cons (not_front_unifyChars closes notReturn (by decide)) marks]
      split
      next => exact (shorter rest (Nat.le_refl _)).after notReturn
      next => exact .error _ _

/-! ## Tokens -/

theorem scan_of_text {source : List Char} (unmarked : ∀ c ∈ source.head?, c ≠ '<' ∧ c ≠ '&') :
    Token.scan .utf8 source =
      match textRun .utf8 source with
      | .ok (text, left) => .ok (.text text, left)
      | .error snag => .error snag := by
  rw [Token.scan.eq_def]
  split
  next => exact absurd rfl (unmarked '<' rfl).1
  next => exact absurd rfl (unmarked '&' rfl).2
  next => rfl

/-- Markup is cut alike. -/
theorem scan_unified_of_opening (source : List Char) :
    Unified Token.unified (Token.scan .utf8 ('<' :: source))
      (Token.scan .utf8 ('<' :: unifyChars source)) := by
  have tag := (startTag_unified source).mapError Stop.snag
  rcases unifyChars_cases source with rfl | ⟨_, rfl, _, same⟩ | ⟨c, rest, rfl, _, same⟩
  · exact .error _ _
  · rw [same]
    exact .error _ _
  · rw [same] at tag ⊢
    by_cases declares : c = '!'
    · subst declares
      rcases unifyChars_cases rest with rfl | ⟨_, rfl, _, same⟩ | ⟨d, after, rfl, _, same⟩
      · exact .error _ _
      · rw [same]
        exact .error _ _
      · rw [same]
        by_cases dash : d = '-'
        · subst dash
          rw [Token.scan, Token.scan]
          refine (comment_unified after).andThen (fun _ failed => by rw [failed]; rfl)
            (fun _ failed => by rw [failed]; rfl) fun body left first second => ?_
          rw [first, second]
          exact .ok (Token.comment body) left
        · by_cases bracket : d = '['
          · subst bracket
            exact cdataSection_unified after
          · rw [unified_iff]
            simp [Token.scan, dash, bracket, Except.toOption]
    · by_cases asks : c = '?'
      · subst asks
        rw [Token.scan, Token.scan]
        refine (instruction_unified rest).andThen (fun _ failed => by rw [failed]; rfl)
          (fun _ failed => by rw [failed]; rfl) fun read left first second => ?_
        rw [first, second]
        exact .ok (Token.instruction read.1 read.2) left
      · by_cases closes : c = '/'
        · subst closes
          exact (endTag_unified rest).mapError Stop.snag
        · have opens (rest : List Char) : Token.scan .utf8 ('<' :: c :: rest) =
              (Scan.startTag .utf8 (c :: rest)).mapError Stop.snag := by
            simp [Token.scan, declares, asks, closes]
          rw [opens, opens]
          exact tag

/-- A source and the source with its line endings unified start with the same token, but for its line
endings, or with none; or a text with a return at its end is all that the source holds. -/
theorem scan_unified (source : List Char) :
    Unified Token.unified (Token.scan .utf8 source) (Token.scan .utf8 (unifyChars source)) ∨
      ∃ snag text, Token.scan .utf8 source = .error snag ∧
        Token.scan .utf8 (unifyChars source) = .ok (.text text, []) := by
  by_cases marked : ∃ c rest, source = c :: rest ∧ (c = '<' ∨ c = '&')
  · obtain ⟨c, rest, rfl, rfl | rfl⟩ := marked
    · rw [unifyChars_cons (by decide)]
      exact Or.inl (scan_unified_of_opening rest)
    · rw [unifyChars_cons (by decide)]
      refine Or.inl (Unified.mapError ?_ Stop.snag)
      refine (reference_unified rest).andThen (fun _ failed => by rw [failed]; rfl)
        (fun _ failed => by rw [failed]; rfl) fun token left first second => ?_
      rw [first, second]
      refine .of_eq ?_ left
      rcases (reference_of_scan first).2 with ⟨digits, rfl⟩ | ⟨name, rfl⟩ <;> rfl
  · have unmarked : ∀ c ∈ source.head?, c ≠ '<' ∧ c ≠ '&' := by
      intro c starts
      obtain ⟨rest, rfl⟩ := List.head?_eq_some_iff.mp starts
      exact not_or.mp fun mark => marked ⟨c, rest, rfl, mark⟩
    have unmarked' : ∀ c ∈ (unifyChars source).head?, c ≠ '<' ∧ c ≠ '&' := by
      intro c starts
      obtain ⟨rest, same⟩ := List.head?_eq_some_iff.mp starts
      refine not_or.mp fun mark => ?_
      have notFeed : c ≠ '\n' := by rcases mark with rfl | rfl <;> decide
      obtain ⟨more, rfl, _⟩ := exists_of_unifyChars_eq_cons notFeed same
      exact marked ⟨c, more, rfl, mark⟩
    rw [scan_of_text unmarked, scan_of_text unmarked']
    have unbroken : textRun .growing (unifyChars source) = textRun .utf8 (unifyChars source) := by
      rcases textRun_growing (unifyChars source) with same | ⟨member, _⟩
      · exact same
      · exact absurd member (returns_not_mem_unifyChars source)
    have inside := textRun_unified source
    rw [unbroken] at inside
    rcases textRun_growing source with same | ⟨_, snag, text, refused, read⟩
    · rw [same] at inside
      rcases inside.outcomes with ⟨text, left, first, second⟩ | ⟨_, _, first, second⟩
      · rw [first, second]
        exact Or.inl (.ok (Token.text text) left)
      · rw [first, second]
        exact Or.inl (.error _ _)
    · rw [refused, inside.read read]
      exact Or.inr ⟨snag, unifyChars text, rfl, rfl⟩

end MemberDocs.Xml
