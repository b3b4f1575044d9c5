import MemberDocs.Proofs.Xml.LineEndings.Tokens

/-! # Declarations of a source with unified line endings

Outside of elements too a source and the source with its line endings unified are cut into the same
tokens, but for the line endings in literals (`DeclToken.scan_unified`), and what a token leaves is an
end of the source (`left_of_scan`).
-/

namespace MemberDocs.Xml

open Text (unifyChars unifyChars_cons)

namespace DeclToken

/-! ## What a token leaves -/

section Left

variable {context : Context} {source left : List Char} {token : DeclToken}

theorem literalText_of_scan {quote : Char} {text : List Char}
    (read : literalText context quote source = .ok (text, left)) :
    source = text ++ quote :: left := by
  induction source generalizing text with
  | nil => cases read
  | cons c rest ih =>
    rw [literalText] at read
    split at read
    next same =>
      obtain ⟨rfl, rfl⟩ := Prod.mk.inj (Except.ok.inj read)
      rw [same, List.nil_append]
    next =>
      split at read
      next =>
        split at read
        next later =>
          obtain ⟨rfl, rfl⟩ := Prod.mk.inj (Except.ok.inj read)
          rw [ih later, List.cons_append]
        next => cases read
      next => cases read

theorem left_of_literal {quote : Char}
    (read : scanLiteral context quote source = .ok (token, left)) : left <:+ source := by
  unfold scanLiteral at read
  split at read
  next => cases read
  next same =>
    split at read
    next =>
      cases read
      exact List.nil_suffix
    next => cases read
  next text c rest same =>
    rw [literalText_of_scan same]
    split at read
    next =>
      cases read
      exact ⟨text ++ [quote], by simp⟩
    next => cases read

theorem left_of_declaration (read : scanDeclaration context source = .ok (token, left)) :
    left <:+ source := by
  rw [scanDeclaration.eq_def] at read
  split at read
  next => cases read
  next rest =>
    split at read
    next body _ inside =>
      cases read
      rw [(comment_of_scan inside).1]
      exact ⟨'-' :: '-' :: (body ++ ['-', '-', '>']), by simp⟩
    next => cases read
  next =>
    cases read
    exact List.suffix_cons _ _
  next =>
    split at read
    next =>
      split at read
      next inside =>
        cases read
        rw [keyword_of_scan inside]
        exact List.suffix_append _ _
      next => cases read
    next => cases read

theorem left_of_percent (read : scanPercent context source = .ok (token, left)) :
    left <:+ source := by
  unfold scanPercent at read
  split at read
  next => cases read
  next c rest =>
    split at read
    next =>
      cases read
      exact List.suffix_refl _
    next =>
      split at read
      next => cases read
      next => cases read
      next inside =>
        cases read
        rw [name_of_scan inside]
        exact (List.suffix_cons _ _).trans (List.suffix_append _ _)
      next => cases read

theorem left_of_hashName (read : scanHashName context source = .ok (token, left)) :
    left <:+ source := by
  unfold scanHashName at read
  split at read
  next => cases read
  next =>
    split at read
    next =>
      cases read
      exact List.nil_suffix
    next => cases read
  next inside =>
    split at read
    next =>
      cases read
      rw [name_of_scan inside]
      exact List.suffix_append _ _
    next => cases read

theorem left_of_word {first : Char} {rest : List Char} (named : context.scheme.isNameChar first)
    (read : scanWord context (first :: rest) = .ok (token, left)) : left <:+ rest := by
  unfold scanWord at read
  rw [List.span_eq_takeWhile_dropWhile, List.dropWhile_cons_of_pos named] at read
  have dropped := List.dropWhile_suffix context.scheme.isNameChar (l := rest)
  dsimp only at read
  split at read
  next =>
    split at read
    next =>
      cases read
      exact List.nil_suffix
    next => cases read
  next same =>
    rw [same] at dropped
    split at read
    next =>
      cases read
      rwa [same]
    next =>
      split at read
      next =>
        split at read
        next =>
          cases read
          exact (List.suffix_cons _ _).trans dropped
        next => cases read
      next => cases read

theorem left_of_closeBracket (read : scanCloseBracket context source = .ok (token, left)) :
    left <:+ source := by
  rw [scanCloseBracket.eq_def] at read
  split at read
  next =>
    cases read
    exact (List.suffix_cons _ _).trans (List.suffix_cons _ _)
  next =>
    split at read
    next => cases read
    next =>
      cases read
      exact List.suffix_refl _
  next =>
    cases read
    exact List.suffix_refl _

theorem left_of_closeParen (read : scanCloseParen context source = .ok (token, left)) :
    left <:+ source := by
  rw [scanCloseParen.eq_def] at read
  split at read
  next =>
    split at read
    next =>
      cases read
      exact List.suffix_refl _
    next => cases read
  next =>
    split at read
    next =>
      cases read
      exact List.suffix_cons _ _
    next =>
      split at read
      next =>
        cases read
        exact List.suffix_refl _
      next => cases read

theorem left_of_opening (read : scanOpening .utf8 source = .ok (token, left))
    (other : token ≠ .element) : left <:+ source := by
  unfold scanOpening at read
  split at read
  next => cases read
  next c rest =>
    split at read
    next => exact (left_of_declaration read).trans (List.suffix_cons _ _)
    next =>
      split at read
      next =>
        split at read
        next target body _ inside =>
          cases read
          rw [(instruction_of_scan inside).1]
          exact ⟨c :: (target ++ body ++ ['?', '>']), by simp⟩
        next => cases read
      next =>
        split at read
        next =>
          cases read
          exact absurd rfl other
        next => cases read

/-- What is left after a token is an end of the source; only the start of an element leaves all. -/
theorem left_of_scan {c : Char} {rest : List Char}
    (read : scan .utf8 (c :: rest) = .ok (token, left)) (other : token ≠ .element) :
    left <:+ rest := by
  rw [scan.eq_def] at read
  dsimp only at read
  split at read
  next space =>
    cases read
    rw [List.dropWhile_cons_of_pos space]
    exact List.dropWhile_suffix _
  next =>
    split at read
    next => exact left_of_literal read
    next => exact left_of_literal read
    next => exact left_of_opening read other
    next => exact left_of_percent read
    next =>
      cases read
      exact List.suffix_refl _
    next =>
      cases read
      exact List.suffix_refl _
    next => exact left_of_closeBracket read
    next =>
      cases read
      exact List.suffix_refl _
    next => exact left_of_closeParen read
    next =>
      cases read
      exact List.suffix_refl _
    next =>
      cases read
      exact List.suffix_refl _
    next => exact left_of_hashName read
    next =>
      split at read
      next named => exact left_of_word named read
      next => cases read

end Left

/-! ## Line endings -/

/-- A token in whose source line endings are unified. -/
def unified : DeclToken → DeclToken
  | .literal quote text => .literal quote (unifyChars text)
  | token => token

theorem literalText_cons {context : Context} {quote c : Char} {rest : List Char} :
    literalText context quote (c :: rest) =
      if c = quote then .ok ([], rest)
      else if isDocumentChar c then consume c (literalText context quote rest)
      else .error (.invalid (c :: rest)) := by
  rw [literalText]
  cases literalText context quote rest <;> rfl

theorem literalText_runs {quote : Char} (quoted : quote = '"' ∨ quote = '\'') :
    Runs (literalText .utf8 quote) where
  front read := ⟨_, (literalText_of_scan read).symm⟩
  ended := .error _ _
  breaks := by
    intro c space notBlank rest
    have plain : c ≠ quote := by
      rcases isSpace_iff.mp space with rfl | rfl | rfl | rfl <;> rcases quoted with rfl | rfl <;>
        decide
    rw [literalText_cons, if_neg plain, if_pos (isDocumentChar_of_isSpace space)]

theorem literalText_unified {quote : Char} (quoted : quote = '"' ∨ quote = '\'')
    (source : List Char) :
    Unified unifyChars (literalText .utf8 quote source)
      (literalText .utf8 quote (unifyChars source)) := by
  refine (literalText_runs quoted).unified (fun c rest notReturn notFeed shorter => ?_) source
  rw [literalText_cons, literalText_cons]
  split
  next => exact .ok [] rest
  next =>
    split
    next => exact (shorter rest (Nat.le_refl _)).after notReturn
    next => exact .error _ _

theorem scanLiteral_unified {quote : Char} (quoted : quote = '"' ∨ quote = '\'')
    (source : List Char) :
    Unified unified (scanLiteral .utf8 quote source) (scanLiteral .utf8 quote (unifyChars source)) := by
  unfold scanLiteral
  refine (literalText_unified quoted source).andThen (fun _ failed => by rw [failed]; rfl)
    (fun _ failed => by rw [failed]; rfl) fun text rest first second => ?_
  rw [first, second]
  have whole : Unified unified (.ok (.literal quote text, rest) : Scan DeclToken)
      (.ok (.literal quote (unifyChars text), unifyChars rest)) := .ok (literal quote text) rest
  rcases unifyChars_cases rest with rfl | ⟨_, rfl, _, same⟩ | ⟨c, left, rfl, _, same⟩
  · exact whole
  · rw [same] at whole ⊢
    exact whole
  · rw [same] at whole ⊢
    dsimp only
    split
    next => exact whole
    next => exact .error _ _

theorem scanKeyword_unified (source : List Char) :
    Unified id (scanKeyword .utf8 source) (scanKeyword .utf8 (unifyChars source)) := by
  induction source with
  | nil => exact .error _ _
  | cons c rest ih =>
    have whole : Unified id (.ok ([], c :: rest) : Scan (List Char))
      (.ok ([], unifyChars (c :: rest))) := .ok [] (c :: rest)
    rcases unifyChars_cases (c :: rest) with same | ⟨_, here, _, same⟩ | ⟨_, _, here, _, same⟩
    · cases same
    · rw [same] at whole ⊢
      rw [here] at whole ⊢
      exact whole
    · obtain ⟨rfl, rfl⟩ := List.cons.inj here
      rw [same] at whole ⊢
      unfold scanKeyword
      split
      next =>
        refine ih.andThen (fun _ failed => by rw [failed]; rfl)
          (fun _ failed => by rw [failed]; rfl) fun more left first second => ?_
        rw [first, second]
        exact .ok (c :: more) left
      next =>
        split
        next => exact whole
        next =>
          split
          next =>
            rcases unifyChars_cases rest with rfl | ⟨_, rfl, _, same⟩ | ⟨d, left, rfl, _, same⟩
            · exact .error _ _
            · rw [same]
              exact .error _ _
            · rw [same] at whole ⊢
              dsimp only
              split
              next => exact .error _ _
              next => exact whole
          next => exact .error _ _

theorem scanDeclaration_unified (source : List Char) :
    Unified unified (scanDeclaration .utf8 source) (scanDeclaration .utf8 (unifyChars source)) := by
  have keyword := scanKeyword_unified source
  rcases unifyChars_cases source with rfl | ⟨_, rfl, _, same⟩ | ⟨c, rest, rfl, _, same⟩
  · exact .error _ _
  · rw [same]
    exact .error _ _
  · rw [same] at keyword ⊢
    by_cases dash : c = '-'
    · subst dash
      rw [scanDeclaration, scanDeclaration]
      refine (comment_unified rest).andThen (fun _ failed => by rw [failed]; rfl)
        (fun _ failed => by rw [failed]; rfl) fun body left first second => ?_
      rw [first, second]
      exact .ok comment left
    · by_cases bracket : c = '['
      · subst bracket
        exact .ok sectionOpen rest
      · have opens (rest : List Char) : scanDeclaration .utf8 (c :: rest) =
            if Scheme.utf8.isPlainNameStart c then
              (scanKeyword .utf8 (c :: rest)).map fun read => (.opening read.1, read.2)
            else .error (.invalid (c :: rest)) := by
          rw [scanDeclaration.eq_def]
          split
          next same => cases same
          next same => exact absurd (List.cons.inj same).1 dash
          next same => exact absurd (List.cons.inj same).1 bracket
          next same =>
            obtain ⟨rfl, rfl⟩ := List.cons.inj same
            cases scanKeyword .utf8 (c :: rest) <;> rfl
        rw [opens, opens]
        split
        next =>
          refine keyword.andThen (fun _ failed => by rw [failed]; rfl)
            (fun _ failed => by rw [failed]; rfl) fun keyword left first second => ?_
          rw [first, second]
          exact .ok (opening keyword) left
        next => exact .error _ _

theorem scanPercent_unified (source : List Char) :
    Unified unified (scanPercent .utf8 source) (scanPercent .utf8 (unifyChars source)) := by
  have named := name_unified source
  have whole : Unified unified (.ok (.percent, source) : Scan DeclToken)
    (.ok (.percent, unifyChars source)) := .ok percent source
  unfold scanPercent
  rcases unifyChars_cases source with rfl | ⟨_, rfl, _, same⟩ | ⟨c, rest, rfl, _, same⟩
  · exact .error _ _
  · rw [same] at whole ⊢
    exact whole
  · rw [same] at named whole ⊢
    dsimp only
    split
    next => exact whole
    next =>
      refine named.andThen (fun _ failed => by rw [failed]; rfl)
        (fun _ failed => by rw [failed]; rfl) fun name rest first second => ?_
      rw [first, second]
      rcases unifyChars_cases rest with rfl | ⟨_, rfl, _, same⟩ | ⟨d, left, rfl, _, same⟩
      · exact .error _ _
      · rw [same]
        exact .error _ _
      · rw [same]
        by_cases closes : d = ';'
        · subst closes
          exact .ok parameterReference left
        · rw [unified_iff]
          simp [closes, Except.toOption]

theorem scanHashName_unified (source : List Char) :
    Unified unified (scanHashName .utf8 source) (scanHashName .utf8 (unifyChars source)) := by
  unfold scanHashName
  refine (name_unified source).andThen (fun _ failed => by rw [failed]; rfl)
    (fun _ failed => by rw [failed]; rfl) fun name rest first second => ?_
  rw [first, second]
  have whole : Unified unified (.ok (.hashName name, rest) : Scan DeclToken)
    (.ok (.hashName name, unifyChars rest)) := .ok (hashName name) rest
  rcases unifyChars_cases rest with rfl | ⟨_, rfl, _, same⟩ | ⟨c, left, rfl, _, same⟩
  · exact whole
  · rw [same] at whole ⊢
    exact whole
  · rw [same] at whole ⊢
    dsimp only [id]
    split
    next => exact whole
    next => exact .error _ _

theorem scanWord_unified {c : Char} (notReturn : c ≠ '\r') (rest : List Char) :
    Unified unified (scanWord .utf8 (c :: rest)) (scanWord .utf8 (c :: unifyChars rest)) := by
  unfold scanWord
  rw [← unifyChars_cons notReturn, Text.span_unifyChars_of_unbroken (by decide) (by decide)]
  obtain ⟨read, left⟩ := (c :: rest).span Context.utf8.scheme.isNameChar
  rw [unifyChars_cons notReturn]
  dsimp only
  have plain : unified (if Context.utf8.scheme.isNameStart c then name read .once else word read) =
      if Context.utf8.scheme.isNameStart c then name read .once else word read := by
    split <;> rfl
  generalize (if Context.utf8.scheme.isNameStart c then name read .once else word read) = token
    at plain
  have whole : Unified unified (.ok (token, left) : Scan DeclToken) (.ok (token, unifyChars left)) :=
    .of_eq plain left
  rcases unifyChars_cases left with rfl | ⟨_, rfl, _, same⟩ | ⟨d, after, rfl, _, same⟩
  · exact whole
  · rw [same] at whole ⊢
    exact whole
  · rw [same] at whole ⊢
    dsimp only
    split
    next => exact whole
    next =>
      split
      next occurrence _ =>
        split
        next => exact .ok (name read occurrence) after
        next => exact .error _ _
      next => exact .error _ _

theorem scanCloseBracket_of_other {source : List Char} (open_ : ¬ [']', '>'] <+: source)
    (more : source ≠ [']']) : scanCloseBracket .utf8 source = .ok (.closeBracket, source) := by
  rw [scanCloseBracket.eq_def]
  split
  next left => exact absurd ⟨left, rfl⟩ open_
  next => exact absurd rfl more
  next => rfl

theorem scanCloseBracket_unified (source : List Char) :
    Unified unified (scanCloseBracket .utf8 source)
      (scanCloseBracket .utf8 (unifyChars source)) := by
  by_cases closes : [']', '>'] <+: source
  · obtain ⟨left, rfl⟩ := closes
    rw [Text.unifyChars_append (by decide)]
    exact .ok sectionClose left
  · by_cases alone : source = [']']
    · subst alone
      exact .error _ _
    · have alone' : unifyChars source ≠ [']'] := by
        intro same
        obtain ⟨more, rfl, empty⟩ := exists_of_unifyChars_eq_cons (by decide) same
        rw [Text.unifyChars_eq_nil_iff.mp empty.symm] at alone
        exact alone rfl
      rw [scanCloseBracket_of_other closes alone, scanCloseBracket_of_other
        (fun front => closes (front_of_unifyChars (by decide) front)) alone']
      exact .ok closeBracket source

theorem scanCloseParen_unified (source : List Char) :
    Unified unified (scanCloseParen .utf8 source) (scanCloseParen .utf8 (unifyChars source)) := by
  have whole : Unified unified (.ok (.closeParen .once, source) : Scan DeclToken)
    (.ok (.closeParen .once, unifyChars source)) := .ok (closeParen .once) source
  rcases unifyChars_cases source with rfl | ⟨_, rfl, _, same⟩ | ⟨c, rest, rfl, _, same⟩
  · exact whole
  · rw [same] at whole ⊢
    exact whole
  · rw [same] at whole ⊢
    rw [scanCloseParen, scanCloseParen]
    split
    next occurrence _ => exact .ok (closeParen occurrence) rest
    next =>
      split
      next => exact whole
      next => exact .error _ _

theorem scanOpening_unified (source : List Char) :
    Unified unified (scanOpening .utf8 source) (scanOpening .utf8 (unifyChars source)) := by
  have whole : Unified unified (.ok (.element, '<' :: source) : Scan DeclToken)
      (.ok (.element, '<' :: unifyChars source)) := by
    rw [← unifyChars_cons (by decide)]
    exact .ok element ('<' :: source)
  unfold scanOpening
  rcases unifyChars_cases source with rfl | ⟨_, rfl, _, same⟩ | ⟨c, rest, rfl, _, same⟩
  · exact .error _ _
  · rw [same] at whole ⊢
    exact .error _ _
  · rw [same] at whole ⊢
    dsimp only
    split
    next => exact scanDeclaration_unified rest
    next =>
      split
      next =>
        refine (instruction_unified rest).andThen (fun _ failed => by rw [failed]; rfl)
          (fun _ failed => by rw [failed]; rfl) fun read left first second => ?_
        rw [first, second]
        exact .ok (instruction read.1) left
      next =>
        split
        next => exact whole
        next => exact .error _ _

theorem scan_of_space {c : Char} (space : isSpace c) (rest : List Char) :
    scan .utf8 (c :: rest) = .ok (.space, (c :: rest).dropWhile isSpace) := by
  rw [scan.eq_def]
  dsimp only
  rw [if_pos space]

/-- Outside of elements a source and the source with its line endings unified start with the same
token, but for its line endings. -/
theorem scan_unified (source : List Char) :
    Unified unified (scan .utf8 source) (scan .utf8 (unifyChars source)) := by
  by_cases spaced : ∃ c rest, source = c :: rest ∧ isSpace c
  · obtain ⟨c, rest, rfl, space⟩ := spaced
    obtain ⟨d, more, same, space'⟩ := exists_space_of_space space rest
    rw [scan_of_space space, same, scan_of_space space', ← same, dropSpaces_unifyChars]
    exact .ok DeclToken.space _
  · rcases unifyChars_cases source with rfl | ⟨rest, rfl, _, _⟩ | ⟨c, rest, rfl, notReturn, same⟩
    · exact .error _ _
    · exact absurd ⟨'\r', rest, rfl, by decide⟩ spaced
    · have other : ¬ isSpace c := fun space => spaced ⟨c, rest, rfl, space⟩
      rw [same, scan.eq_def, scan.eq_def .utf8 (c :: unifyChars rest)]
      dsimp only
      rw [if_neg other, if_neg other]
      split
      next => exact scanLiteral_unified (Or.inl rfl) rest
      next => exact scanLiteral_unified (Or.inr rfl) rest
      next => exact scanOpening_unified rest
      next => exact scanPercent_unified rest
      next => exact .ok comma rest
      next => exact .ok openBracket rest
      next => exact scanCloseBracket_unified rest
      next => exact .ok openParen rest
      next => exact scanCloseParen_unified rest
      next => exact .ok bar rest
      next => exact .ok close rest
      next => exact scanHashName_unified rest
      next =>
        split
        next => exact scanWord_unified notReturn rest
        next => exact .error _ _

end DeclToken

end MemberDocs.Xml
