import MemberDocs.Proofs.Xml.Account
import MemberDocs.Proofs.Xml.Layout
import MemberDocs.Xml.Document

/-! # Around the document element

What fills the gaps before and after the document element is passed over: the prolog is read up to the
element without anything declared (`readProlog_of_fills`), no fault is found after it
(`epilogFault_of_fills`), and none of it is taken for an XML declaration
(`declarationAtFront?_lexeme`).
-/

namespace MemberDocs.Xml

/-- The token says nothing before and after the document element. -/
inductive DeclToken.Idle : DeclToken → Prop where
  | space : Idle .space
  | comment : Idle .comment
  | instruction {target : List Char} (other : target ≠ Scan.declarationTarget) :
      Idle (.instruction target)

/-- What fills a gap is read outside of elements too; white space ends before any other character. -/
theorem Fills.declScan {token : Token} (fills : Fills token) {rest : List Char}
    (follows : token.isText → ∀ c ∈ rest.head?, isSpace c = false) :
    ∃ decl, DeclToken.scan .utf8 (token.lexeme ++ rest) = .ok (decl, rest) ∧ decl.Idle := by
  have sign : isSpace '<' = false := by decide
  cases fills with
  | @space source filled spaces =>
    obtain ⟨c, more, rfl⟩ := List.exists_cons_of_ne_nil filled
    have space := spaces c List.mem_cons_self
    have dropped : (c :: more ++ rest).dropWhile isSpace = rest := by
      have split := span_append spaces (follows rfl)
      rw [List.span_eq_takeWhile_dropWhile] at split
      exact congrArg Prod.snd split
    refine ⟨.space, ?_, .space⟩
    change DeclToken.scan .utf8 (c :: more ++ rest) = _
    rw [List.cons_append, DeclToken.scan.eq_def]
    simp only [space, ↓reduceIte]
    rw [← List.cons_append, dropped]
  | aside aside =>
    cases aside with
    | @comment body written =>
      refine ⟨.comment, ?_, .comment⟩
      rw [lexeme_comment]
      simp only [List.cons_append, List.append_assoc, List.nil_append, DeclToken.scan, sign,
        Bool.false_eq_true, ↓reduceIte, DeclToken.scanOpening, DeclToken.scanDeclaration,
        Scan.comment, scan_commentBody written rest]
    | @instruction target body written =>
      refine ⟨.instruction target, ?_, .instruction written.ne_declarationTarget⟩
      have scanned := written.scan rest
      rw [List.append_assoc] at scanned
      rw [lexeme_instruction]
      simp [DeclToken.scan, sign, DeclToken.scanOpening, scanned]

/-- Between character data and what is written next stands no white space. -/
theorem Apart.follows {token : Token} {tokens : List Token} (apart : Apart (token :: tokens))
    (text : token.isText) : ∀ c ∈ (tokens.flatMap Token.lexeme).head?, isSpace c = false := by
  have signs : isSpace '<' = false ∧ isSpace '&' = false := by decide
  cases tokens with
  | nil => simp
  | cons second more =>
    obtain ⟨sign, rest, same, marks⟩ := apart.startsMarkup text (more.flatMap Token.lexeme)
    rw [List.flatMap_cons, same]
    rcases marks with rfl | rfl <;> simp [signs]

section Prolog

variable {subset : Subset}

theorem DeclToken.Idle.next? {decl : DeclToken} (idle : decl.Idle) (depth : Nat) :
    Phase.prolog.next? depth decl = some (.prolog, .nothing) := by
  cases idle with
  | space | comment => rfl
  | instruction other =>
    rw [Phase.next?, if_neg other]
    rfl

/-- What stands in front can be counted, as long as no more has been replaced than read. -/
theorem Account.Spares.chargeFront {account : Account} (spares : account.Spares 0)
    (scheme : Scheme) (position : Position) (source rest : List Char) :
    ∃ after : Account,
      account.chargeFront scheme position source rest = .ok after ∧ after.Spares 0 := by
  refine (spares.chargeParts_direct [(source.take (source.length - rest.length), position)]).imp
    fun after charged => ⟨charged.1, charged.2.le (Nat.zero_le _)⟩

theorem readProlog_lexeme {token : Token} (fills : Fills token)
    (spares : subset.account.Spares 0) (position : Position) {rest : List Char}
    (follows : token.isText → ∀ c ∈ rest.head?, isSpace c = false) :
    ∃ (place : Position) (account : Account), account.Spares 0 ∧
      readProlog .utf8 .prolog subset 0 position (token.lexeme ++ rest) =
        readProlog .utf8 .prolog { subset with account } 0 place rest := by
  obtain ⟨decl, scanned, idle⟩ := fills.declScan follows
  obtain ⟨c, more, lexeme⟩ := List.exists_cons_of_ne_nil fills.readable.filled
  obtain ⟨account, charged, spared⟩ :=
    spares.chargeFront .utf8 position (c :: (more ++ rest)) rest
  obtain ⟨place, skipped⟩ := @exists_place_of_skip _ (readProlog .utf8 .prolog { subset with account })
    (fun _ _ _ _ => by rw [readProlog]) (position.step c (more ++ rest)) more rest
  refine ⟨place, account, spared, ?_⟩
  rw [lexeme, List.cons_append] at scanned ⊢
  rw [← skipped, readProlog]
  have acted : { subset with account }.act .utf8 .nothing = .ok { subset with account } := rfl
  have element : (some (Phase.prolog, Role.nothing)).any (·.2 = .element) = false := rfl
  simp only [scanned, idle.next?, element, Bool.false_eq_true, ↓reduceIte, Context.utf8_scheme,
    charged, acted, List.length_append, Nat.add_sub_cancel]

/-- Before the element, what fills a gap is passed over. -/
theorem readProlog_of_fills {gap : List Token} (fills : ∀ token ∈ gap, Fills token)
    {tokens : List Token} (apart : Apart (gap ++ tokens)) (spares : subset.account.Spares 0)
    (position : Position) :
    ∃ (place : Position) (account : Account), account.Spares 0 ∧
      readProlog .utf8 .prolog subset 0 position ((gap ++ tokens).flatMap Token.lexeme) =
        readProlog .utf8 .prolog { subset with account } 0 place
          (tokens.flatMap Token.lexeme) := by
  induction gap generalizing subset position with
  | nil => exact ⟨position, subset.account, spares, rfl⟩
  | cons token gap ih =>
    rw [List.cons_append] at apart
    obtain ⟨between, account, spared, here⟩ := readProlog_lexeme (fills token List.mem_cons_self)
      spares position apart.follows
    obtain ⟨place, final, left, later⟩ := @ih { subset with account }
      (fun other member => fills other (List.mem_cons_of_mem _ member))
      (List.IsChain.of_cons apart) spared between
    exact ⟨place, final, left, here.trans later⟩

/-- The prolog ends where the element starts. -/
theorem readProlog_element {first : Char} (starts : Scheme.utf8.isNameStart first)
    (position : Position) (rest : List Char) :
    readProlog .utf8 .prolog subset 0 position ('<' :: first :: rest) =
      .ok (subset, position, '<' :: first :: rest) := by
  have plain : first ≠ '!' ∧ first ≠ '?' := by
    constructor <;> rintro rfl <;> exact absurd starts (by decide)
  have sign : isSpace '<' = false := by decide
  have scanned : DeclToken.scan .utf8 ('<' :: first :: rest) =
      .ok (.element, '<' :: first :: rest) := by
    simp [DeclToken.scan, sign, DeclToken.scanOpening, plain, Scheme.opensElement, starts]
  have reached : Phase.prolog.next? subset.groups.length .element = some (.prolog, .element) := rfl
  have ends : (some (Phase.prolog, Role.element)).any (·.2 = .element) := rfl
  rw [readProlog]
  simp only [scanned, reached, ends, ↓reduceIte]

end Prolog

theorem epilogFault_lexeme {token : Token} (fills : Fills token) {account : Account}
    (spares : account.Spares 0) (position : Position) {rest : List Char}
    (follows : token.isText → ∀ c ∈ rest.head?, isSpace c = false) :
    ∃ (place : Position) (after : Account), after.Spares 0 ∧
      epilogFault .utf8 account 0 position (token.lexeme ++ rest) =
        epilogFault .utf8 after 0 place rest := by
  obtain ⟨decl, scanned, idle⟩ := fills.declScan follows
  obtain ⟨c, more, lexeme⟩ := List.exists_cons_of_ne_nil fills.readable.filled
  obtain ⟨after, charged, spared⟩ :=
    spares.chargeFront .utf8 position (c :: (more ++ rest)) rest
  obtain ⟨place, skipped⟩ := @exists_place_of_skip _ (epilogFault .utf8 after)
    (fun _ _ _ _ => by rw [epilogFault]) (position.step c (more ++ rest)) more rest
  refine ⟨place, after, spared, ?_⟩
  rw [lexeme, List.cons_append] at scanned ⊢
  rw [← skipped, epilogFault]
  cases idle with
  | space | comment => simp [scanned, charged]
  | instruction other => simp [scanned, charged, other]

/-- After the element, what fills a gap is no fault. -/
theorem epilogFault_of_fills {gap : List Token} (fills : ∀ token ∈ gap, Fills token)
    (apart : Apart gap) {account : Account} (spares : account.Spares 0) (position : Position) :
    epilogFault .utf8 account 0 position (gap.flatMap Token.lexeme) = none := by
  induction gap generalizing account position with
  | nil => rfl
  | cons token gap ih =>
    obtain ⟨place, after, spared, here⟩ := epilogFault_lexeme (fills token List.mem_cons_self)
      spares position apart.follows
    exact here.trans (ih (fun other member => fills other (List.mem_cons_of_mem _ member))
      (List.IsChain.of_cons apart) spared place)

/-! ## The XML declaration -/

theorem declarationAtFront?_lexeme {token : Token} (fills : Fills token) (rest : List Char) :
    declarationAtFront? .utf8 (token.lexeme ++ rest) = none := by
  cases fills with
  | @space source filled spaces =>
    obtain ⟨c, more, rfl⟩ := List.exists_cons_of_ne_nil filled
    have space := spaces c List.mem_cons_self
    change declarationAtFront? .utf8 (c :: more ++ rest) = none
    unfold declarationAtFront?
    split
    next same =>
      obtain rfl : c = '<' := (List.cons.inj same).1
      exact absurd space (by decide)
    next => rfl
  | aside aside =>
    cases aside with
    | comment written =>
      rw [lexeme_comment]
      rfl
    | @instruction target body written =>
      have scanned := written.scan rest
      rw [List.append_assoc] at scanned
      rw [lexeme_instruction]
      simp [declarationAtFront?, scanned, written.ne_declarationTarget]

theorem declarationAtFront?_element {first : Char} (starts : Scheme.utf8.isNameStart first)
    (rest : List Char) : declarationAtFront? .utf8 ('<' :: first :: rest) = none := by
  unfold declarationAtFront?
  split
  next same =>
    obtain rfl : first = '?' := (List.cons.inj (List.cons.inj same).2).1
    exact absurd starts (by decide)
  next => rfl

theorem declarationAtFront?_declaration {body : List Char} (legal : IsLegal body)
    (parted : body.head?.all isSpace) (closed : ¬ ['?', '>'] <:+: body) (rest : List Char) :
    declarationAtFront? .utf8
        ('<' :: '?' :: (Scan.declarationTarget ++ body ++ ['?', '>']) ++ rest) =
      some (body, rest) := by
  have scanned := scan_instruction (show isName Scan.declarationTarget by decide) (by decide) legal
    parted closed rest
  simp only [List.append_assoc] at scanned
  simp [declarationAtFront?, scanned]

end MemberDocs.Xml
