import MemberDocs.Proofs.Xml.LineEndings.Content
import MemberDocs.Proofs.Xml.LineEndings.Doctype

/-! # Documents with unified line endings

A document and the document with its line endings unified say the same in their XML declarations
(`parse_unified`), and are told by the same events but for their places, unless one of them comes to the
limit of what may be counted (`readDocument_alike`).
-/

namespace MemberDocs.Xml

open Text (unifyChars unifyChars_cons)

/-! ## The XML declaration -/

namespace Declaration

theorem value_unified {quote : Char} (quoted : quote = '"' ∨ quote = '\'') (source : List Char) :
    Unified id (value quote source) (value quote (unifyChars source)) := by
  induction source with
  | nil => exact .error _ _
  | cons c rest ih =>
    rcases unifyChars_cases (c :: rest) with same | ⟨_, here, _, same⟩ | ⟨_, _, here, _, same⟩
    · cases same
    · rw [same]
      obtain ⟨rfl, rfl⟩ := List.cons.inj here
      rcases quoted with rfl | rfl <;> exact .error _ _
    · obtain ⟨rfl, rfl⟩ := List.cons.inj here
      rw [same, value, value]
      split
      next => exact .ok [] rest
      next =>
        split
        next =>
          refine ih.andThen (fun _ failed => by rw [failed]; rfl)
            (fun _ failed => by rw [failed]; rfl) fun more left first second => ?_
          rw [first, second]
          exact .ok (c :: more) left
        next => exact .error _ _

theorem equalsSign_unified (source : List Char) :
    (equalsSign (unifyChars source)).toOption = (equalsSign source).toOption.map unifyChars := by
  unfold equalsSign
  rw [dropSpaces_unifyChars]
  rcases unifyChars_cases (source.dropWhile isSpace) with same | ⟨_, same, _, same'⟩ |
    ⟨c, rest, same, _, same'⟩
  · rw [same]
    rfl
  · rw [same', same]
    rfl
  · rw [same', same]
    by_cases equals : c = '='
    · subst equals
      exact congrArg some (dropSpaces_unifyChars rest)
    · simp [equals, Except.toOption]

end Declaration

/-- An assignment in whose places line endings are unified. -/
def Assignment.unified (a : Assignment) : Assignment :=
  { a with atName := unifyChars a.atName, atValue := unifyChars a.atValue }

namespace Declaration

/-- An assignment with no white space in front. -/
def assigned (atName : List Char) : Except (List Char) (Assignment × List Char) :=
  let (name, rest) := atName.span isAssignedNameChar
  if name.isEmpty then .error atName
  else
    match equalsSign rest with
    | .error at_ => .error at_
    | .ok [] => .error []
    | .ok (quote :: atValue) =>
      if quote = '"' || quote = '\'' then
        match value quote atValue with
        | .error at_ => .error at_
        | .ok (value, left) => .ok (⟨name, value, atName, atValue⟩, left)
      else .error (quote :: atValue)

theorem assignment?_of_space {c : Char} (space : isSpace c) (rest : List Char) :
    assignment? (c :: rest) =
      if ((c :: rest).dropWhile isSpace).isEmpty then .ok none
      else (assigned ((c :: rest).dropWhile isSpace)).map some := by
  unfold assignment? assigned
  simp only [space, Bool.not_true, Bool.false_eq_true, if_false]
  generalize (c :: rest).dropWhile isSpace = atName
  cases atName with
  | nil => rfl
  | cons first after =>
    simp only [List.isEmpty_cons, Bool.false_eq_true, if_false]
    generalize (first :: after).span isAssignedNameChar = parts
    obtain ⟨name, rest⟩ := parts
    dsimp only
    split
    next => rfl
    next =>
      cases equalsSign rest with
      | error at_ => rfl
      | ok rest =>
        cases rest with
        | nil => rfl
        | cons quote atValue =>
          dsimp only
          split
          next => cases value quote atValue <;> rfl
          next => rfl

theorem assigned_unified (atName : List Char) :
    Unified Assignment.unified (assigned atName) (assigned (unifyChars atName)) := by
  unfold assigned
  rw [Text.span_unifyChars_of_unbroken (by decide) (by decide)]
  obtain ⟨name, rest⟩ := atName.span isAssignedNameChar
  dsimp only
  split
  next => exact .error _ _
  next =>
    have equals := equalsSign_unified rest
    cases signed : equalsSign rest with
    | error at_ =>
      rw [signed] at equals
      obtain ⟨at', signed'⟩ := toOption_eq_none_iff.mp equals
      rw [signed']
      exact .error _ _
    | ok rest =>
      rw [signed] at equals
      rw [toOption_eq_some_iff.mp equals]
      rcases unifyChars_cases rest with rfl | ⟨_, rfl, _, same⟩ | ⟨quote, atValue, rfl, _, same⟩
      · exact .error _ _
      · rw [same]
        exact .error _ _
      · rw [same]
        dsimp only
        split
        next quoted =>
          refine (value_unified (by simpa using quoted) atValue).andThen
            (fun _ failed => by rw [failed]; rfl) (fun _ failed => by rw [failed]; rfl)
            fun value left first second => ?_
          rw [first, second]
          exact .ok (⟨name, value, atName, atValue⟩ : Assignment) left
        next => exact .error _ _

/-- Both declarations go on with the same assignment, or with none. -/
theorem assignment?_unified (source : List Char) :
    (∃ at_ at', assignment? source = .error at_ ∧ assignment? (unifyChars source) = .error at') ∨
      (assignment? source = .ok none ∧ assignment? (unifyChars source) = .ok none) ∨
        ∃ a left, assignment? source = .ok (some (a, left)) ∧
          assignment? (unifyChars source) = .ok (some (a.unified, unifyChars left)) := by
  by_cases spaced : ∃ c rest, source = c :: rest ∧ isSpace c
  · obtain ⟨c, rest, rfl, space⟩ := spaced
    obtain ⟨d, more, same, space'⟩ := exists_space_of_space space rest
    have dropped := dropSpaces_unifyChars (c :: rest)
    rw [same] at dropped ⊢
    rw [assignment?_of_space space, assignment?_of_space space', dropped]
    generalize (c :: rest).dropWhile isSpace = atName
    rw [Text.isEmpty_unifyChars]
    split
    next => exact Or.inr (Or.inl ⟨rfl, rfl⟩)
    next =>
      rcases (assigned_unified atName).outcomes with ⟨a, left, first, second⟩ | ⟨_, _, first, second⟩
      · rw [first, second]
        exact Or.inr (Or.inr ⟨a, left, rfl, rfl⟩)
      · rw [first, second]
        exact Or.inl ⟨_, _, rfl, rfl⟩
  · rcases unifyChars_cases source with rfl | ⟨rest, rfl, _, _⟩ | ⟨c, rest, rfl, _, same⟩
    · exact Or.inr (Or.inl ⟨rfl, rfl⟩)
    · exact absurd ⟨'\r', rest, rfl, by decide⟩ spaced
    · have other : isSpace c = false := by
        simpa using fun space => spaced ⟨c, rest, rfl, space⟩
      rw [same]
      unfold assignment?
      simp only [other, Bool.not_false, if_true]
      exact Or.inl ⟨_, _, rfl, rfl⟩

theorem ending_unified (a : Assignment) (left : List Char) :
    (ending a.unified (unifyChars left)).toOption = (ending a left).toOption := by
  unfold ending
  rw [dropSpaces_unifyChars]
  by_cases named : a.name ≠ "standalone".toList
  · rw [if_pos named, if_pos (show a.unified.name ≠ _ from named)]
    rfl
  rw [if_neg named, if_neg (show ¬ a.unified.name ≠ _ from named)]
  by_cases other : a.value ≠ "yes".toList && a.value ≠ "no".toList
  · have other' : a.unified.value ≠ "yes".toList && a.unified.value ≠ "no".toList := other
    rw [if_pos other, if_pos other']
    rfl
  have other' : ¬ (a.unified.value ≠ "yes".toList && a.unified.value ≠ "no".toList) := other
  rw [if_neg other, if_neg other']
  rcases unifyChars_cases (left.dropWhile isSpace) with same | ⟨_, same, _, same'⟩ |
    ⟨_, _, same, _, same'⟩
  · rw [same]
    rfl
  · rw [same', same]
    rfl
  · rw [same', same]
    rfl

/-- A declaration in whose places line endings are unified. -/
def unified (declaration : Declaration) : Declaration :=
  { declaration with encoding := declaration.encoding.map fun named => (named.1, unifyChars named.2) }

theorem parse_unified (body : List Char) :
    (parse (unifyChars body)).toOption = (parse body).toOption.map unified := by
  unfold parse
  rcases assignment?_unified body with ⟨_, _, first, second⟩ | ⟨first, second⟩ |
    ⟨version, left, first, second⟩
  · rw [first, second]
    rfl
  · rw [first, second]
    rfl
  · rw [first, second]
    dsimp only
    by_cases other : version.name ≠ "version".toList
    · rw [if_pos other, if_pos (show version.unified.name ≠ _ from other)]
      rfl
    rw [if_neg other, if_neg (show ¬ version.unified.name ≠ _ from other)]
    rcases assignment?_unified left with ⟨_, _, first, second⟩ | ⟨first, second⟩ |
      ⟨named, left, first, second⟩
    · rw [first, second]
      rfl
    · rw [first, second]
      rfl
    · rw [first, second]
      dsimp only
      by_cases encoding : named.name = "encoding".toList
      · rw [if_pos encoding, if_pos (show named.unified.name = _ from encoding)]
        by_cases unlettered : !named.value.head?.any isAsciiLetter
        · rw [if_pos unlettered,
            if_pos (show (!named.unified.value.head?.any isAsciiLetter) = true from unlettered)]
          rfl
        rw [if_neg unlettered,
          if_neg (show ¬ (!named.unified.value.head?.any isAsciiLetter) = true from unlettered)]
        rcases assignment?_unified left with ⟨_, _, first, second⟩ | ⟨first, second⟩ |
          ⟨third, left, first, second⟩
        · rw [first, second]
          rfl
        · rw [first, second]
          rfl
        · rw [first, second]
          dsimp only
          rw [toOption_map, ending_unified, toOption_map]
          cases (ending third left).toOption <;> rfl
      · rw [if_neg encoding, if_neg (show ¬ named.unified.name = _ from encoding), toOption_map,
          ending_unified, toOption_map]
        cases (ending named left).toOption <;> rfl

end Declaration

/-! ## Documents -/

/-- A token that may follow the document element. -/
def DeclToken.isAllowed : DeclToken → Bool
  | .space | .comment => true
  | .instruction target => target ≠ Scan.declarationTarget
  | _ => false

/-- What follows the document element is passed over, or has a fault. -/
def passEpilog (account : Account) (skip : Nat) (position : Position) (source : List Char) :
    Except PlacedFault Unit :=
  match epilogFault .utf8 account skip position source with
  | none => .ok ()
  | some fault => .error fault

theorem passEpilog_eq_ok_iff {account : Account} {skip : Nat} {position : Position}
    {source : List Char} {passed : Unit} :
    passEpilog account skip position source = .ok passed ↔
      epilogFault .utf8 account skip position source = none := by
  unfold passEpilog
  cases epilogFault .utf8 account skip position source <;> simp

theorem passEpilog_eq_error_iff {account : Account} {skip : Nat} {position : Position}
    {source : List Char} {fault : PlacedFault} :
    passEpilog account skip position source = .error fault ↔
      epilogFault .utf8 account skip position source = some fault := by
  unfold passEpilog
  cases epilogFault .utf8 account skip position source <;> simp

/-- A token after the document element is counted, and passed over if it may stand there. -/
theorem passEpilog_of_token (account : Account) (position : Position) {c : Char}
    {rest left : List Char} {token : DeclToken}
    (scanned : DeclToken.scan .utf8 (c :: rest) = .ok (token, left)) :
    passEpilog account 0 position (c :: rest) =
      (account.chargeFront .utf8 position (c :: rest) left).bind fun account =>
        if token.isAllowed then
          passEpilog account (rest.length - left.length) (position.step c rest) rest
        else .error (.junkAfterDocument, position) := by
  unfold passEpilog
  rw [epilogFault]
  simp only [scanned, Context.utf8_scheme]
  cases account.chargeFront .utf8 position (c :: rest) left with
  | error fault => rfl
  | ok account =>
    dsimp only [Except.bind]
    cases token with
    | instruction target =>
      by_cases other : target = Scan.declarationTarget <;> simp [DeclToken.isAllowed, other]
    | _ => rfl

theorem exists_place_of_allowed {c : Char} {rest left : List Char} {token : DeclToken}
    (scanned : DeclToken.scan .utf8 (c :: rest) = .ok (token, left))
    (allowed : token.isAllowed) (account : Account) (position : Position) :
    left.length ≤ rest.length ∧ ∃ place,
      passEpilog account (rest.length - left.length) (position.step c rest) rest =
        passEpilog account 0 place left := by
  have notElement : token ≠ .element := by
    rintro rfl
    cases allowed
  obtain ⟨skipped, rfl⟩ := DeclToken.left_of_scan scanned notElement
  obtain ⟨place, skips⟩ := @exists_place_of_skip _ (epilogFault .utf8 account)
    (fun _ _ _ _ => by rw [epilogFault]) (position.step c (skipped ++ left)) skipped left
  refine ⟨by simp, place, ?_⟩
  unfold passEpilog
  rw [List.length_append, Nat.add_sub_cancel, skips]

theorem passEpilog_alike (account account' : Account) (position position' : Position)
    (source : List Char) :
    Alike (fun _ _ => True) ((passEpilog account 0 position source).mapError Prod.fst)
      ((passEpilog account' 0 position' (unifyChars source)).mapError Prod.fst) := by
  induction length : source.length using Nat.strong_induction_on
    generalizing account account' position position' source with
  | _ length ih =>
    subst length
    cases source with
    | nil => exact .read trivial
    | cons c rest =>
      obtain ⟨d, more, unified⟩ : ∃ d more, unifyChars (c :: rest) = d :: more :=
        List.exists_cons_of_ne_nil (by simp)
      have scans := DeclToken.scan_unified (c :: rest)
      rw [unified] at scans ⊢
      rcases scans.outcomes with ⟨token, left, scanned, scanned'⟩ | ⟨_, _, scanned, scanned'⟩
      · have same : token.unified.isAllowed = token.isAllowed := by cases token <;> rfl
        have counts : Alike (fun _ _ => True)
            ((account.chargeFront .utf8 position (c :: rest) left).mapError Prod.fst)
            ((account'.chargeFront .utf8 position' (d :: more) (unifyChars left)).mapError
              Prod.fst) := Account.alike_chargeParts ..
        rw [passEpilog_of_token account position scanned,
          passEpilog_of_token account' position' scanned', same]
        refine counts.andThen (fun _ failed => by rw [failed]; rfl)
          (fun _ failed => by rw [failed]; rfl) fun counted counted' _ first second => ?_
        rw [first, second]
        dsimp only [Except.bind]
        cases allowed : token.isAllowed with
        | true =>
          obtain ⟨shorter, place, here⟩ := exists_place_of_allowed scanned allowed counted position
          obtain ⟨_, place', there⟩ :=
            exists_place_of_allowed scanned' (same.trans allowed) counted' position'
          rw [if_pos rfl, if_pos rfl, here, there]
          exact ih left.length (Nat.lt_succ_of_le shorter) counted counted' place place' left rfl
        | false => exact .refused _ _
      · unfold passEpilog
        rw [epilogFault, epilogFault, scanned, scanned']
        exact .refused _ _

theorem readElement_of_unclosed {context : Context} {dtd : Dtd} {account : Account}
    {position : Position} {source : List Char}
    (unclosed : ∀ place rest,
      (tokensFrom context (some 0) false 0 position source).2 ≠ .closed place rest) :
    ∃ error, readElement context dtd account position source = .error error := by
  unfold readElement
  generalize tokensFrom context (some 0) false 0 position source = cut at unclosed ⊢
  obtain ⟨tokens, ending⟩ := cut
  dsimp only at unclosed ⊢
  split
  next => exact ⟨_, rfl⟩
  next =>
    split
    next => exact ⟨_, rfl⟩
    next => exact ⟨_, rfl⟩
    next place rest => exact absurd rfl (unclosed place rest)

theorem readElement_alike (dtd : Dtd) (account account' : Account) (position position' : Position)
    (source : List Char) :
    Alike (fun events events' => events'.map Event.unplaced = events.map Event.unplaced)
      ((readElement .utf8 dtd account position source).mapError Prod.fst)
      ((readElement .utf8 dtd account' position' (unifyChars source)).mapError Prod.fst) := by
  have cuts := tokensFrom_unified (some 0) false position position' source
  generalize first : tokensFrom .utf8 (some 0) false 0 position source = cut,
    second : tokensFrom .utf8 (some 0) false 0 position' (unifyChars source) = cut' at cuts
  cases cuts with
  | closed same place place' rest =>
    unfold readElement
    rw [first, second, Context.utf8_scheme]
    dsimp only
    refine (@readTokens_alike dtd account account' _ _ same).andThen
      (fun _ failed => by rw [failed]; rfl) (fun _ failed => by rw [failed]; rfl)
      fun reading reading' same told told' => ?_
    have events : reading'.events.map Event.unplaced = reading.events.map Event.unplaced :=
      congrArg Reading.events same
    rw [told, told']
    dsimp only
    refine (passEpilog_alike reading.account reading'.account place place' rest).andThen
      (fun _ failed => by rw [passEpilog_eq_error_iff.mp failed]; rfl)
      (fun _ failed => by rw [passEpilog_eq_error_iff.mp failed]; rfl) fun _ _ _ first second => ?_
    rw [passEpilog_eq_ok_iff.mp first, passEpilog_eq_ok_iff.mp second]
    refine .read ?_
    rw [List.map_reverse, List.map_reverse, events]
  | unclosed first_ second_ =>
    obtain ⟨error, refused⟩ := @readElement_of_unclosed .utf8 dtd account _ _ (first ▸ first_)
    obtain ⟨error', refused'⟩ := @readElement_of_unclosed .utf8 dtd account' _ _ (second ▸ second_)
    rw [refused, refused']
    exact .refused _ _

theorem readDocument_alike (subset : Subset) (account : Account) (position position' : Position)
    (source : List Char) :
    Alike (fun events events' => events'.map Event.unplaced = events.map Event.unplaced)
      ((readDocument .utf8 subset position source).mapError Prod.fst)
      ((readDocument .utf8 (subset.recounted account) position' (unifyChars source)).mapError
        Prod.fst) := by
  unfold readDocument
  refine (readProlog_alike .prolog subset account position position' source).andThen
    (fun _ failed => by rw [failed]; rfl) (fun _ failed => by rw [failed]; rfl) ?_
  rintro read read' ⟨⟨counted, declared⟩, rest⟩ first second
  rw [first, second]
  dsimp only
  rw [declared, rest]
  exact readElement_alike read.1.dtd read.1.account counted _ _ read.2.2

end MemberDocs.Xml
