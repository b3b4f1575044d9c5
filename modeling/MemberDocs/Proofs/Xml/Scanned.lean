import MemberDocs.Proofs.Xml.Places
import MemberDocs.Proofs.Xml.Prolog

/-! # What has been scanned

The converse of reading back: a scan that gives a part has its source in front of it. What is passed
over before the document element fills a gap (`fills_of_scan`), so a prolog in which nothing declares a
document type leaves the declarations as they are (`dtd_of_readProlog`). How the token at the front of a
source has been scanned is said once (`Token.scanned_of_scan`); so a start tag has its name right after
its sign (`startTag_of_scan`).
-/

namespace MemberDocs.Xml

section Parts

variable {context : Context} {source left : List Char}

theorem name_of_scan {name : List Char} (read : Scan.name context source = .ok (name, left)) :
    source = name ++ left := by
  cases source with
  | nil => cases read
  | cons first rest =>
    rw [Scan.name] at read
    split at read
    next =>
      rw [List.span_eq_takeWhile_dropWhile] at read
      obtain ⟨rfl, rfl⟩ := Prod.mk.inj (Except.ok.inj read)
      rw [List.cons_append, List.takeWhile_append_dropWhile]
    next => cases read

theorem isName_of_scan {ending : Ending} {name : List Char}
    (read : Scan.name ⟨.utf8, ending⟩ source = .ok (name, left)) :
    isName name := by
  cases source with
  | nil => cases read
  | cons first rest =>
    rw [Scan.name] at read
    split at read
    next starts =>
      rw [List.span_eq_takeWhile_dropWhile] at read
      obtain ⟨rfl, rfl⟩ := Prod.mk.inj (Except.ok.inj read)
      simpa [isName] using starts
    next => cases read

theorem commentBody_of_scan {body : List Char}
    (read : Scan.commentBody context source = .ok (body, left)) :
    source = body ++ '-' :: '-' :: '>' :: left ∧ IsCommentBody body := by
  induction source generalizing body with
  | nil => simp [Scan.commentBody] at read
  | cons c rest ih =>
    rw [Scan.commentBody.eq_def] at read
    split at read
    next same => cases same
    next => cases read
    next same =>
      obtain ⟨rfl, rfl⟩ := Prod.mk.inj (Except.ok.inj read)
      exact ⟨same, by simp, by decide⟩
    next => cases read
    next first more _ _ single same =>
      obtain ⟨rfl, rfl⟩ := List.cons.inj same
      split at read
      next legal =>
        split at read
        next inner _ later =>
          obtain ⟨rfl, rfl⟩ := Prod.mk.inj (Except.ok.inj read)
          obtain ⟨rfl, legalBody, unbroken⟩ := ih later
          refine ⟨rfl, isLegal_cons.mpr ⟨legal, legalBody⟩, ?_⟩
          rw [List.cons_append, List.infix_cons_iff, not_or]
          refine ⟨?_, unbroken⟩
          rintro ⟨others, starts⟩
          obtain ⟨rfl, next⟩ := List.cons.inj starts
          cases inner with
          | nil => exact single _ rfl rfl
          | cons d more =>
            obtain rfl : '-' = d := (List.cons.inj next).1
            exact single _ rfl rfl
        next => cases read
      next => cases read

theorem comment_of_scan {body : List Char}
    (read : Scan.comment context source = .ok (body, left)) :
    source = '-' :: (body ++ '-' :: '-' :: '>' :: left) ∧ IsCommentBody body := by
  rw [Scan.comment.eq_def] at read
  split at read
  next => cases read
  next =>
    obtain ⟨rfl, written⟩ := commentBody_of_scan read
    exact ⟨rfl, written⟩
  next => cases read

theorem instructionBody_of_scan {body : List Char}
    (read : Scan.instructionBody context source = .ok (body, left)) :
    source = body ++ '?' :: '>' :: left ∧ IsLegal body ∧ ¬ ['?', '>'] <:+: body := by
  induction source generalizing body with
  | nil => simp [Scan.instructionBody] at read
  | cons c rest ih =>
    rw [Scan.instructionBody.eq_def] at read
    split at read
    next same => cases same
    next same =>
      obtain ⟨rfl, rfl⟩ := Prod.mk.inj (Except.ok.inj read)
      exact ⟨same, by simp, by decide⟩
    next first more single same =>
      obtain ⟨rfl, rfl⟩ := List.cons.inj same
      split at read
      next legal =>
        split at read
        next inner _ later =>
          obtain ⟨rfl, rfl⟩ := Prod.mk.inj (Except.ok.inj read)
          obtain ⟨rfl, legalBody, closed⟩ := ih later
          refine ⟨rfl, isLegal_cons.mpr ⟨legal, legalBody⟩, ?_⟩
          rw [List.infix_cons_iff, not_or]
          refine ⟨?_, closed⟩
          rintro ⟨others, starts⟩
          obtain ⟨rfl, rfl⟩ := List.cons.inj starts
          exact single _ rfl rfl
        next => cases read
      next => cases read

theorem instruction_of_scan {ending : Ending} {target body : List Char}
    (read : Scan.instruction ⟨.utf8, ending⟩ source = .ok ((target, body), left)) :
    source = target ++ body ++ '?' :: '>' :: left ∧ isName target ∧
      Scan.isReservedTarget target = false ∧ IsLegal body ∧ body.head?.all isSpace ∧
        ¬ ['?', '>'] <:+: body := by
  unfold Scan.instruction at read
  split at read
  next => cases read
  next scanned rest name =>
    have named := isName_of_scan name
    obtain rfl := name_of_scan name
    split at read
    next => cases read
    next c after =>
      split at read
      next space =>
        split at read
        next => cases read
        next unreserved =>
          split at read
          next => cases read
          next inner _ inside =>
            obtain ⟨same, rfl⟩ := Prod.mk.inj (Except.ok.inj read)
            obtain ⟨rfl, rfl⟩ := Prod.mk.inj same
            obtain ⟨rfl, legal, closed⟩ := instructionBody_of_scan inside
            refine ⟨by simp, named, by simpa using unreserved,
              isLegal_cons.mpr ⟨isDocumentChar_of_isSpace space, legal⟩, by simpa using space, ?_⟩
            rw [List.infix_cons_iff, not_or]
            refine ⟨?_, closed⟩
            rintro ⟨others, starts⟩
            obtain rfl : '?' = c := (List.cons.inj starts).1
            exact absurd space (by decide)
      next =>
        split at read
        next isMark =>
          subst isMark
          split at read
          next => cases read
          next unreserved =>
            split at read
            next => cases read
            next =>
              obtain ⟨same, rfl⟩ := Prod.mk.inj (Except.ok.inj read)
              obtain ⟨rfl, rfl⟩ := Prod.mk.inj same
              exact ⟨by simp, named, by simpa using unreserved, by simp, rfl, by decide⟩
            next => cases read
        next => cases read

end Parts

/-! ## Before the document element -/

namespace DeclToken

/-- The token is no markup of its own: a literal, a word or a sign of a declaration. -/
def isSmall : DeclToken → Bool
  | .name _ _ | .word _ | .hashName _ | .literal _ _ | .percent | .parameterReference | .comma | .bar
  | .openParen | .closeParen _ | .openBracket | .closeBracket | .close | .sectionClose => true
  | .space | .instruction _ | .comment | .opening _ | .sectionOpen | .element => false

variable {context : Context} {source left : List Char} {token : DeclToken}

theorem isSmall_of_scanWord (read : scanWord context source = .ok (token, left)) :
    token.isSmall := by
  have plain (first : Char) (word : List Char) :
      (if context.scheme.isNameStart first then DeclToken.name word .once else .word word).isSmall := by
    split <;> rfl
  unfold scanWord at read
  dsimp only at read
  split at read
  next => cases read
  next first more =>
    split at read
    next =>
      split at read
      next => exact (Prod.mk.inj (Except.ok.inj read)).1 ▸ plain first _
      next => cases read
    next =>
      split at read
      next => exact (Prod.mk.inj (Except.ok.inj read)).1 ▸ plain first _
      next =>
        split at read
        next =>
          split at read
          next => exact (Prod.mk.inj (Except.ok.inj read)).1 ▸ rfl
          next => cases read
        next => cases read

/-- White space, what starts with a less-than sign, and the parts of declarations. -/
theorem scan_cases (read : scan context source = .ok (token, left)) :
    (token = .space ∧ source.head?.any isSpace ∧ left = source.dropWhile isSpace) ∨
      (∃ rest, source = '<' :: rest ∧ scanOpening context rest = .ok (token, left)) ∨
        token.isSmall := by
  cases source with
  | nil => cases read
  | cons c rest =>
    rw [scan.eq_def] at read
    dsimp only at read
    split at read
    next space =>
      obtain ⟨rfl, rfl⟩ := Prod.mk.inj (Except.ok.inj read)
      exact Or.inl ⟨rfl, by simpa using space, rfl⟩
    next =>
      right
      by_cases opens : c = '<'
      · subst opens
        exact Or.inl ⟨rest, rfl, read⟩
      · right
        unfold scanLiteral scanPercent scanCloseBracket scanCloseParen scanHashName at read
        repeat' split at read
        all_goals first
          | exact isSmall_of_scanWord read
          | contradiction
          | (cases read; rfl)

theorem keyword_of_scan {keyword : List Char}
    (read : scanKeyword context source = .ok (keyword, left)) : source = keyword ++ left := by
  induction source generalizing keyword with
  | nil => cases read
  | cons c rest ih =>
    rw [scanKeyword.eq_def] at read
    dsimp only at read
    split at read
    next =>
      split at read
      next more _ later =>
        obtain ⟨rfl, rfl⟩ := Prod.mk.inj (Except.ok.inj read)
        rw [ih later, List.cons_append]
      next => cases read
    next =>
      repeat' split at read
      all_goals cases read <;> rfl

/-- What can start with a less-than sign: the parts that have a source of their own are told with it. -/
theorem scanOpening_cases (read : scanOpening .utf8 source = .ok (token, left)) :
    (∃ body, token = .comment ∧ Fills (.comment body) ∧
        '<' :: source = (Token.comment body).lexeme ++ left) ∨
      (∃ target body, token = .instruction target ∧
        (target ≠ Scan.declarationTarget → Fills (.instruction target body)) ∧
          '<' :: source = (Token.instruction target body).lexeme ++ left) ∨
        (∃ keyword, token = .opening keyword ∧ source = '!' :: keyword ++ left) ∨
          token = .sectionOpen ∨ token = .element := by
  unfold scanOpening at read
  split at read
  next => cases read
  next c rest =>
    split at read
    next isMark =>
      subst isMark
      rw [scanDeclaration.eq_def] at read
      split at read
      next => cases read
      next more =>
        split at read
        next body _ scanned =>
          obtain ⟨rfl, rfl⟩ := Prod.mk.inj (Except.ok.inj read)
          obtain ⟨rfl, written⟩ := comment_of_scan scanned
          refine Or.inl ⟨body, rfl, .aside (.comment written), ?_⟩
          rw [lexeme_comment]
          simp
        next => cases read
      next =>
        obtain ⟨rfl, rfl⟩ := Prod.mk.inj (Except.ok.inj read)
        simp
      next c more _ _ =>
        split at read
        next =>
          split at read
          next keyword _ scanned =>
            obtain ⟨rfl, rfl⟩ := Prod.mk.inj (Except.ok.inj read)
            have source := keyword_of_scan scanned
            exact Or.inr (Or.inr (Or.inl ⟨keyword, rfl, by rw [source]; rfl⟩))
          next => cases read
        next => cases read
    next =>
      split at read
      next isMark =>
        subst isMark
        split at read
        next target body _ scanned =>
          obtain ⟨rfl, rfl⟩ := Prod.mk.inj (Except.ok.inj read)
          obtain ⟨rfl, named, unreserved, legal, parted, closed⟩ := instruction_of_scan scanned
          refine Or.inr (Or.inl ⟨target, body, rfl, fun other => ?_, ?_⟩)
          · refine .aside (.instruction ⟨named, ?_, legal, parted, closed⟩)
            simpa [Scan.isReservedTarget, other] using unreserved
          · rw [lexeme_instruction]
            simp
        next => cases read
      next =>
        split at read
        next => exact (Prod.mk.inj (Except.ok.inj read)).1 ▸ by simp
        next => cases read

/-- What says nothing before the document element fills a gap. -/
theorem Idle.fills_of_scan (idle : token.Idle) (read : scan .utf8 source = .ok (token, left)) :
    ∃ filling, Fills filling ∧ source = filling.lexeme ++ left := by
  rcases scan_cases read with ⟨rfl, starts, rfl⟩ | ⟨rest, rfl, opening⟩ | small
  · refine ⟨.text (source.takeWhile isSpace), .space ?_ ?_, ?_⟩
    · cases source with
      | nil => cases starts
      | cons c more =>
        have space : isSpace c := by simpa using starts
        simp [space]
    · exact List.all_eq_true.mp List.all_takeWhile
    · exact List.takeWhile_append_dropWhile.symm
  · rcases scanOpening_cases opening with ⟨body, rfl, fills, same⟩ |
      ⟨target, body, rfl, fills, same⟩ | ⟨keyword, rfl, -⟩ | rfl | rfl
    · exact ⟨_, fills, same⟩
    · obtain _ | _ | other := idle
      exact ⟨_, fills other, same⟩
    all_goals cases idle
  · cases idle <;> cases small

end DeclToken

/-- What stands in front of a document type declaration, apart from an XML declaration, and what is
left of the source after it. -/
def DeclaresType (source : List Char) : Prop :=
  ∃ (gap : List Token) (rest : List Char), (∀ token ∈ gap, Fills token) ∧
    source = gap.flatMap Token.lexeme ++ ("<!DOCTYPE".toList ++ rest)

/-- What has another place in front of the document element than the element itself or a gap is a
document type declaration. -/
theorem exists_doctype_of_next? {source left : List Char} {token : DeclToken} {depth : Nat}
    {phase : Phase} {role : Role} (scanned : DeclToken.scan .utf8 source = .ok (token, left))
    (idle : ¬ token.Idle) (notElement : role ≠ .element)
    (leads : Phase.prolog.next? depth token = some (phase, role)) :
    ∃ rest, source = "<!DOCTYPE".toList ++ rest := by
  rcases DeclToken.scan_cases scanned with ⟨rfl, -, -⟩ | ⟨rest, rfl, opening⟩ | small
  · exact absurd .space idle
  · rcases DeclToken.scanOpening_cases opening with ⟨_, rfl, -⟩ | ⟨target, body, rfl, -⟩ |
      ⟨keyword, rfl, rfl⟩ | rfl | rfl
    · exact absurd .comment idle
    · by_cases declaration : target = Scan.declarationTarget
      · rw [Phase.next?, if_pos declaration] at leads
        cases leads
      · exact absurd (.instruction declaration) idle
    · by_cases isDoctype : Phase.isKeyword keyword "DOCTYPE"
      · refine ⟨left, ?_⟩
        obtain rfl : keyword = "DOCTYPE".toList := of_decide_eq_true isDoctype
        rfl
      · have nowhere : Phase.prolog.next? depth (.opening keyword) =
            if Phase.isKeyword keyword "DOCTYPE" then some (.doctypeName, .nothing) else none := rfl
        rw [nowhere, if_neg isDoctype] at leads
        cases leads
    · cases leads
    · exact absurd (Prod.mk.inj (Option.some.inj leads)).2.symm notElement
  · have nowhere : Phase.prolog.next? depth token = none := by
      cases token <;> first | rfl | cases small
    rw [nowhere] at leads
    cases leads

/-- Without a document type declaration nothing is declared. -/
theorem dtd_of_readProlog {subset after : Subset} {skip : Nat} {position place : Position}
    {source rest : List Char}
    (read : readProlog .utf8 .prolog subset skip position source = .ok (after, place, rest)) :
    after.dtd = subset.dtd ∨ DeclaresType (source.drop skip) := by
  induction source generalizing subset skip position with
  | nil => simp [readProlog] at read
  | cons c more ih =>
    cases skip with
    | succ skip => exact ih (by simpa only [readProlog] using read)
    | zero =>
      rw [readProlog] at read
      split at read
      next => cases read
      next token left scanned =>
        dsimp only at read
        split at read
        next =>
          obtain ⟨rfl, -⟩ := Prod.mk.inj (Except.ok.inj read)
          exact Or.inl rfl
        next reached =>
          split at read
          next => cases read
          next account charged =>
            split at read
            next => cases read
            next nextPhase role leads =>
              by_cases idle : token.Idle
              · rw [idle.next?] at leads
                obtain ⟨rfl, rfl⟩ := Prod.mk.inj (Option.some.inj leads)
                obtain ⟨filling, fills, source⟩ := idle.fills_of_scan scanned
                obtain ⟨first, others, lexeme⟩ := List.exists_cons_of_ne_nil fills.readable.filled
                rw [lexeme, List.cons_append] at source
                obtain ⟨rfl, rfl⟩ := List.cons.inj source
                have acted : { subset with account }.act Context.utf8.scheme .nothing =
                  .ok { subset with account } := rfl
                rw [acted] at read
                dsimp only at read
                rcases ih read with same | ⟨gap, behind, gapFills, rest⟩
                · exact Or.inl same
                · refine Or.inr ⟨filling :: gap, behind,
                    List.forall_mem_cons.mpr ⟨fills, gapFills⟩, ?_⟩
                  rw [List.length_append, Nat.add_sub_cancel, List.drop_left] at rest
                  rw [List.drop_zero, List.flatMap_cons, lexeme, rest]
                  simp
              · have notElement : role ≠ .element := by
                  rintro rfl
                  exact reached (by simp [leads])
                obtain ⟨rest, source⟩ := exists_doctype_of_next? scanned idle notElement leads
                exact Or.inr ⟨[], rest, by simp, source⟩

theorem declaration_of_declarationAtFront? {ending : Ending} {source body rest : List Char}
    (found : declarationAtFront? ⟨.utf8, ending⟩ source = some (body, rest)) :
    source = '<' :: '?' :: (Scan.declarationTarget ++ body ++ ['?', '>']) ++ rest ∧
      IsLegal body ∧ body.head?.all isSpace ∧ ¬ ['?', '>'] <:+: body := by
  unfold declarationAtFront? at found
  split at found
  next cs =>
    split at found
    next target inner left scanned =>
      split at found
      next isDeclaration =>
        obtain ⟨rfl, rfl⟩ := Prod.mk.inj (Option.some.inj found)
        obtain ⟨rfl, -, -, legal, parted, closed⟩ := instruction_of_scan scanned
        exact ⟨by simp [isDeclaration], legal, parted, closed⟩
      next => cases found
    next => cases found
  next => cases found

/-! ## Tokens -/

section Tokens

variable {context : Context} {source left : List Char}

/-- How the token at the front of a source is scanned. -/
inductive Token.Scanned (context : Context) : List Char → Token → List Char → Prop
  | comment {rest body left : List Char} (inside : Scan.comment context rest = .ok (body, left)) :
      Scanned context ('<' :: '!' :: '-' :: rest) (.comment body) left
  | cdata {rest body left : List Char} (inside : cdataSection context rest = .ok (.cdata body, left)) :
      Scanned context ('<' :: '!' :: '[' :: rest) (.cdata body) left
  | instruction {rest target body left : List Char}
      (inside : Scan.instruction context rest = .ok ((target, body), left)) :
      Scanned context ('<' :: '?' :: rest) (.instruction target body) left
  | endTag {cs rest name trail left : List Char} (named : Scan.name context cs = .ok (name, rest))
      (closed : Scan.spaces rest = (trail, '>' :: left)) :
      Scanned context ('<' :: '/' :: cs) (.endTag name trail) left
  | startTag {cs rest name trail left : List Char} {attributes : List RawAttribute} {empty : Bool}
      (named : Scan.name context cs = .ok (name, rest))
      (inside : Scan.attributes context true (rest.length + 1) rest =
        .ok ((attributes, trail, empty), left)) :
      Scanned context ('<' :: cs) (.startTag name attributes trail empty) left
  | character {cs digits left : List Char}
      (inside : Scan.reference context cs = .ok (.character digits, left)) :
      Scanned context ('&' :: cs) (.character digits) left
  | entity {cs name left : List Char}
      (inside : Scan.reference context cs = .ok (.entity name, left)) :
      Scanned context ('&' :: cs) (.entity name) left
  | text {source text left : List Char} (unmarked : ∀ c ∈ source.head?, c ≠ '<' ∧ c ≠ '&')
      (inside : textRun context source = .ok (text, left)) : Scanned context source (.text text) left

theorem exists_body_of_cdataSection {token : Token}
    (read : cdataSection context source = .ok (token, left)) : ∃ body, token = .cdata body := by
  unfold cdataSection at read
  dsimp only at read
  split at read
  next => cases read
  next =>
    split at read
    next => cases read
    next =>
      split at read
      next => cases read
      next body _ _ => exact ⟨body, (Prod.mk.inj (Except.ok.inj read)).1.symm⟩

theorem scanned_of_endTag {token : Token} (read : Scan.endTag context source = .ok (token, left)) :
    Token.Scanned context ('<' :: '/' :: source) token left := by
  unfold Scan.endTag at read
  split at read
  next => cases read
  next name rest named =>
    cases parts : Scan.spaces rest with
    | mk trail after =>
      rw [parts] at read
      dsimp only at read
      split at read
      next => cases read
      next =>
        obtain ⟨rfl, rfl⟩ := Prod.mk.inj (Except.ok.inj read)
        exact .endTag named parts
      next => cases read

theorem scanned_of_startTag {token : Token} (read : Scan.startTag context source = .ok (token, left)) :
    Token.Scanned context ('<' :: source) token left := by
  unfold Scan.startTag at read
  split at read
  next => cases read
  next name rest named =>
    split at read
    next => cases read
    next inside =>
      obtain ⟨rfl, rfl⟩ := Prod.mk.inj (Except.ok.inj read)
      exact .startTag named inside

theorem scanned_of_reference {token : Token}
    (read : Scan.reference context source = .ok (token, left)) :
    Token.Scanned context ('&' :: source) token left := by
  have whole := read
  rw [Scan.reference.eq_def] at whole
  split at whole
  next =>
    split at whole
    next =>
      obtain ⟨rfl, -⟩ := Prod.mk.inj (Except.ok.inj whole)
      exact .character read
    next => cases whole
  next =>
    split at whole
    next => cases whole
    next => cases whole
    next =>
      obtain ⟨rfl, -⟩ := Prod.mk.inj (Except.ok.inj whole)
      exact .entity read
    next => cases whole

theorem Token.scanned_of_scan {token : Token} (read : Token.scan context source = .ok (token, left)) :
    Token.Scanned context source token left := by
  rw [Token.scan.eq_def] at read
  split at read
  next cs =>
    split at read
    next rest =>
      split at read
      next => cases read
      next =>
        split at read
        next inside =>
          obtain ⟨rfl, rfl⟩ := Prod.mk.inj (Except.ok.inj read)
          exact .comment inside
        next => cases read
      next =>
        obtain ⟨body, rfl⟩ := exists_body_of_cdataSection read
        exact .cdata read
      next => cases read
    next =>
      split at read
      next inside =>
        obtain ⟨rfl, rfl⟩ := Prod.mk.inj (Except.ok.inj read)
        exact .instruction inside
      next => cases read
    next => exact scanned_of_endTag (mapError_eq_ok_iff.mp read)
    next => exact scanned_of_startTag (mapError_eq_ok_iff.mp read)
  next cs => exact scanned_of_reference (mapError_eq_ok_iff.mp read)
  next notTag notReference =>
    split at read
    next inside =>
      obtain ⟨rfl, rfl⟩ := Prod.mk.inj (Except.ok.inj read)
      refine .text ?_ inside
      intro c starts
      obtain ⟨rest, rfl⟩ := List.head?_eq_some_iff.mp starts
      constructor
      · rintro rfl
        exact notTag rest rfl
      · rintro rfl
        exact notReference rest rfl
    next => cases read

/-- After the name of a tag come its attributes, or its end. -/
theorem starts_of_scan_attributes {room : Nat} {read : List RawAttribute × List Char × Bool}
    (scanned : Scan.attributes context true room source = .ok (read, left)) :
    ∃ next after, source = next :: after ∧ (isSpace next ∨ next = '/' ∨ next = '>') := by
  cases room with
  | zero => cases scanned
  | succ room =>
    cases source with
    | nil => simp [Scan.attributes, Scan.spaces] at scanned
    | cons next after =>
      refine ⟨next, after, rfl, ?_⟩
      by_cases space : isSpace next
      · exact Or.inl space
      · right
        have noSpaces : Scan.spaces (next :: after) = ([], next :: after) := by
          simp [Scan.spaces, List.span_eq_takeWhile_dropWhile, space]
        simp only [Scan.attributes, noSpaces] at scanned
        by_cases ends : next = '>' || next = '/'
        · simpa [or_comm] using ends
        · simp [ends] at scanned

theorem startTag_of_scan {name : List Char} {attributes : List RawAttribute} {trail : List Char}
    {empty : Bool}
    (read : Token.scan context source = .ok (.startTag name attributes trail empty, left)) :
    ∃ next after, source = '<' :: (name ++ next :: after) ∧
      (isSpace next ∨ next = '/' ∨ next = '>') := by
  cases Token.scanned_of_scan read with
  | startTag named inside =>
    obtain ⟨next, after, rfl, ends⟩ := starts_of_scan_attributes inside
    exact ⟨next, after, by rw [name_of_scan named], ends⟩

end Tokens

end MemberDocs.Xml
