import MemberDocs.Proofs.Xml.LineEndings.Scans

/-! # Values after different accounts

Whether a value can be read depends on how much has been read before it, since the texts of entities
count up to a limit. Two readings that differ in what has been counted, and in the line endings of the
value, give the same unless one of them comes to that limit (`attributeValue_alike`).
-/

namespace MemberDocs.Xml

open Text (unifyChars unifyChars_cons unifyChars_return unifyChars_break)

/-- Two readings that are both refused or give what is related, unless one of them is refused at the
limit of what may be counted. -/
inductive Alike {α β : Type} (related : α → β → Prop) : Except Fault α → Except Fault β → Prop where
  | read {first : α} {second : β} (same : related first second) :
      Alike related (.ok first) (.ok second)
  | refused (first second : Fault) : Alike related (.error first) (.error second)
  | exceedsFirst (second : Except Fault β) : Alike related (.error .amplification) second
  | exceedsSecond (first : Except Fault α) : Alike related first (.error .amplification)

theorem Alike.bind {α β γ δ : Type} {related : α → β → Prop} {related' : γ → δ → Prop}
    {first : Except Fault α} {second : Except Fault β} (alike : Alike related first second)
    {next : α → Except Fault γ} {next' : β → Except Fault δ}
    (later : ∀ a b, related a b → Alike related' (next a) (next' b)) :
    Alike related' (first.bind next) (second.bind next') := by
  cases alike with
  | read same => exact later _ _ same
  | refused fault fault' => exact .refused fault fault'
  | exceedsFirst => exact .exceedsFirst _
  | exceedsSecond => exact .exceedsSecond _

section Faults

variable {ε α β : Type} {fault : ε → Fault} {related : α → β → Prop}

theorem Alike.outcomes {first : Except ε α} {second : Except ε β}
    (alike : Alike related (first.mapError fault) (second.mapError fault)) :
    (∃ a b, related a b ∧ first = .ok a ∧ second = .ok b) ∨
      (∃ error error', first = .error error ∧ second = .error error') ∨
        (∃ error, fault error = .amplification ∧ first = .error error) ∨
          ∃ error, fault error = .amplification ∧ second = .error error := by
  generalize same : first.mapError fault = result, same' : second.mapError fault = result' at alike
  cases alike with
  | read related =>
    exact Or.inl ⟨_, _, related, mapError_eq_ok_iff.mp same, mapError_eq_ok_iff.mp same'⟩
  | refused =>
    obtain ⟨error, failed, _⟩ := mapError_eq_error_iff.mp same
    obtain ⟨error', failed', _⟩ := mapError_eq_error_iff.mp same'
    exact Or.inr (Or.inl ⟨error, error', failed, failed'⟩)
  | exceedsFirst =>
    obtain ⟨error, failed, limit⟩ := mapError_eq_error_iff.mp same
    exact Or.inr (Or.inr (Or.inl ⟨error, limit, failed⟩))
  | exceedsSecond =>
    obtain ⟨error, failed, limit⟩ := mapError_eq_error_iff.mp same'
    exact Or.inr (Or.inr (Or.inr ⟨error, limit, failed⟩))

/-- Readings that go on from two that are alike, and that report the faults of those. -/
theorem Alike.andThen {γ δ : Type} {related' : γ → δ → Prop} {first : Except ε α} {second : Except ε β}
    {result : Except Fault γ} {result' : Except Fault δ}
    (alike : Alike related (first.mapError fault) (second.mapError fault))
    (failed : ∀ error, first = .error error → result = .error (fault error))
    (failed' : ∀ error, second = .error error → result' = .error (fault error))
    (read : ∀ a b, related a b → first = .ok a → second = .ok b → Alike related' result result') :
    Alike related' result result' := by
  rcases alike.outcomes with ⟨a, b, same, first, second⟩ | ⟨error, error', first, second⟩ |
    ⟨error, limit, first⟩ | ⟨error, limit, second⟩
  · exact read a b same first second
  · rw [failed error first, failed' error' second]
    exact .refused _ _
  · rw [failed error first, limit]
    exact .exceedsFirst _
  · rw [failed' error second, limit]
    exact .exceedsSecond _

end Faults

theorem Alike.refl {α : Type} (first : Except Fault α) : Alike Eq first first := by
  cases first with
  | error fault => exact .refused fault fault
  | ok a => exact .read rfl

/-- What is counted is counted on both sides, or comes to the limit. -/
theorem Account.alike_chargeParts (account account' : Account) (tally tally' : Tally)
    (scheme scheme' : Scheme) (parts parts' : List (List Char × Position)) :
    Alike (fun _ _ => True) ((account.chargeParts tally scheme parts).mapError Prod.fst)
      ((account'.chargeParts tally' scheme' parts').mapError Prod.fst) := by
  cases counted : account.chargeParts tally scheme parts with
  | error fault =>
    have limit := fault_of_chargeParts counted
    simp only [Except.mapError, limit]
    exact .exceedsFirst _
  | ok after =>
    cases counted' : account'.chargeParts tally' scheme' parts' with
    | error fault =>
      have limit := fault_of_chargeParts counted'
      simp only [Except.mapError, limit]
      exact .exceedsSecond _
    | ok after' => exact .read trivial

/-! ## Filling -/

/-- Two values of which the same characters have been read, whatever has been counted. -/
def Filling.Agrees (filling filling' : Filling) : Prop :=
  filling'.chars = filling.chars

namespace Filling.Agrees

variable {filling filling' : Filling} (agrees : filling.Agrees filling')

include agrees

theorem push (c : Char) : (filling.push c).Agrees (filling'.push c) :=
  congrArg (c :: ·) agrees

theorem pushSpace (isText : Bool) :
    (filling.pushSpace isText).Agrees (filling'.pushSpace isText) := by
  unfold Filling.pushSpace
  rw [agrees]
  split
  next => exact agrees
  next => exact agrees.push ' '

theorem finish (isText : Bool) : filling'.finish isText = filling.finish isText := by
  unfold Filling.finish
  rw [agrees]

end Filling.Agrees

/-- What counting a part of a value can lead to: the same characters, or the limit. -/
inductive Filling.Counted (filling : Filling) : Except Snag Filling → Prop where
  | kept {after : Filling} (agrees : filling.Agrees after) : Counted filling (.ok after)
  | exceeds : Counted filling (.error ⟨.amplification, none⟩)

theorem Filling.Counted.of_agrees {filling filling' : Filling} {result : Except Snag Filling}
    (counted : filling'.Counted result) (agrees : filling.Agrees filling') :
    filling.Counted result := by
  cases counted with
  | kept kept => exact .kept (kept.trans agrees)
  | exceeds => exact .exceeds

theorem Filling.counted_count (filling : Filling) (tally : Tally) (size : Nat) :
    filling.Counted (filling.count tally size) := by
  unfold Filling.count
  cases filling.account.charge tally size with
  | none => exact .exceeds
  | some account => exact .kept rfl

theorem Filling.counted_settle (filling : Filling) (tally : Tally) :
    filling.Counted (filling.settle tally) := by
  unfold Filling.settle
  split
  next => exact .kept rfl
  next =>
    exact (Filling.counted_count { filling with run := 0 } tally filling.run).of_agrees rfl

theorem Filling.Agrees.counted {filling filling' : Filling} (agrees : filling.Agrees filling')
    {result result' : Except Snag Filling} (counted : filling.Counted result)
    (counted' : filling'.Counted result') :
    Alike Filling.Agrees (result.mapError Snag.fault) (result'.mapError Snag.fault) := by
  cases counted with
  | exceeds => exact .exceedsFirst _
  | kept kept =>
    cases counted' with
    | exceeds => exact .exceedsSecond _
    | kept kept' => exact .read (kept'.trans (agrees.trans kept.symm))

theorem Filling.Agrees.count {filling filling' : Filling} (agrees : filling.Agrees filling')
    (tally tally' : Tally) (size size' : Nat) :
    Alike Filling.Agrees ((filling.count tally size).mapError Snag.fault)
      ((filling'.count tally' size').mapError Snag.fault) :=
  agrees.counted (filling.counted_count tally size) (filling'.counted_count tally' size')

theorem Filling.Agrees.settle {filling filling' : Filling} (agrees : filling.Agrees filling')
    (tally tally' : Tally) :
    Alike Filling.Agrees ((filling.settle tally).mapError Snag.fault)
      ((filling'.settle tally').mapError Snag.fault) :=
  agrees.counted (filling.counted_settle tally) (filling'.counted_settle tally')

/-- What a reference adds to a value. -/
def fillReference (dtd : Dtd) (replace : List Char → List Char → Filling → Except Snag Filling)
    (isText : Bool) (within : List (List Char)) (filling : Filling) : Token → Except Fault Filling
  | .character digits =>
    match numberedChar? digits with
    | none => .error .badCharacterNumber
    | some c => .ok (if c = ' ' then filling.pushSpace isText else filling.push c)
  | .entity name =>
    match predefinedEntity? name with
    | some c => .ok (filling.pushPredefined c)
    | none =>
      match dtd.valueEntity within name with
      | .error fault => .error fault
      | .ok none => .ok filling
      | .ok (some text) => (replace name text filling).mapError Snag.fault
  | _ => .ok filling

theorem value_char_cases (c : Char) : isPlainValueChar c ∨ c = '&' ∨ c = '<' ∨ isSpace c := by
  by_cases refers : c = '&'
  · exact Or.inr (Or.inl refers)
  · by_cases sign : c = '<'
    · exact Or.inr (Or.inr (Or.inl sign))
    · cases space : isSpace c <;> simp [isPlainValueChar, refers, sign, space]

section Fill

variable {dtd : Dtd} {replace : List Char → List Char → Filling → Except Snag Filling}
  {isOuter isText : Bool} {tally : Tally} {within : List (List Char)} {scheme : Scheme}

theorem fillValue_plain {c : Char} (plain : isPlainValueChar c) (filling : Filling)
    (rest : List Char) :
    fillValue dtd replace isOuter isText tally within scheme 0 filling (c :: rest) =
      fillValue dtd replace isOuter isText tally within scheme 0
        { filling.push c with run := filling.run + scheme.bytes c } rest := by
  rw [fillValue]
  exact if_pos plain

/-- A reference adds to a value what it stands for, and is passed over. -/
theorem fillValue_reference (filling : Filling) (source : List Char) :
    (fillValue dtd replace isOuter isText tally within scheme 0 filling ('&' :: source)).mapError
        Snag.fault =
      ((filling.settle tally).mapError Snag.fault).bind fun filling =>
        match Scan.reference ⟨scheme, .complete⟩ source with
        | .error _ => .error .invalidToken
        | .ok (token, _) =>
          ((filling.count tally (scheme.size token.lexeme)).mapError Snag.fault).bind fun filling =>
            (fillReference dtd replace isText within filling token).bind fun filling =>
              (fillValue dtd replace isOuter isText tally within scheme (token.lexeme.length - 1)
                filling source).mapError Snag.fault := by
  have marked : isPlainValueChar '&' = false := by decide
  rw [fillValue]
  simp only [marked, Bool.false_eq_true, ↓reduceIte]
  cases filling.settle tally with
  | error snag => rfl
  | ok filling =>
    cases Scan.reference ⟨scheme, .complete⟩ source with
    | error stop => cases stop <;> rfl
    | ok read =>
      obtain ⟨token, left⟩ := read
      dsimp only [Except.mapError, Except.bind]
      cases filling.count tally (scheme.size token.lexeme) with
      | error snag => rfl
      | ok filling =>
        cases token with
        | character digits =>
          simp only [fillReference]
          cases numberedChar? digits with
          | none => rfl
          | some c =>
            by_cases space : c = ' '
            · subst space
              rfl
            · simp only [space, if_false]
        | entity name =>
          simp only [fillReference]
          cases predefinedEntity? name with
          | some c => rfl
          | none =>
            cases dtd.valueEntity within name with
            | error fault => cases fault <;> rfl
            | ok text? =>
              cases text? with
              | none => rfl
              | some text =>
                dsimp only
                cases replace name text filling <;> rfl
        | _ => rfl

theorem fillValue_sign (filling : Filling) (rest : List Char) :
    (fillValue dtd replace isOuter isText tally within scheme 0 filling ('<' :: rest)).mapError
        Snag.fault =
      ((filling.settle tally).mapError Snag.fault).bind fun _ => .error .invalidToken := by
  have marked : isPlainValueChar '<' = false := by decide
  rw [fillValue]
  simp only [marked, Bool.false_eq_true, ↓reduceIte]
  cases filling.settle tally <;> rfl

/-- White space adds a space, once it has been counted. -/
theorem fillValue_space {c : Char} (space : isSpace c) (filling : Filling) (rest : List Char) :
    ∃ size, (fillValue dtd replace isOuter isText tally within scheme 0 filling
        (c :: rest)).mapError Snag.fault =
      ((filling.settle tally).mapError Snag.fault).bind fun filling =>
        ((filling.count tally size).mapError Snag.fault).bind fun filling =>
          (fillValue dtd replace isOuter isText tally within scheme
            (if c = '\r' && scheme ≠ .replacement && rest.head? = some '\n' then 1 else 0)
            (filling.pushSpace isText) rest).mapError Snag.fault := by
  have marked : isPlainValueChar c = false := by simp [isPlainValueChar, space]
  have unmarked : c ≠ '&' ∧ c ≠ '<' := by
    constructor <;> rintro rfl <;> exact absurd space (by decide)
  rw [fillValue]
  simp only [marked, unmarked.1, unmarked.2, Bool.false_eq_true, ↓reduceIte]
  generalize (if c = '\r' && scheme ≠ .replacement && rest.head? = some '\n' then
    scheme.size [c, '\n'] else _) = size
  refine ⟨size, ?_⟩
  cases filling.settle tally with
  | error snag => rfl
  | ok filling =>
    dsimp only [Except.mapError, Except.bind]
    cases filling.count tally size <;> rfl

variable {tally' : Tally}
  {replace' : List Char → List Char → Filling → Except Snag Filling}

/-- Any white space is one space on both sides, after which the sources go on alike. -/
theorem fillValue_space_alike {filling filling' : Filling} (agrees : filling.Agrees filling')
    {c d : Char} (space : isSpace c) (space' : isSpace d) {rest rest' : List Char}
    (next : ∀ filling filling' : Filling, filling.Agrees filling' →
      Alike Filling.Agrees
        ((fillValue dtd replace isOuter isText tally within scheme
          (if c = '\r' && scheme ≠ .replacement && rest.head? = some '\n' then 1 else 0)
          filling rest).mapError Snag.fault)
        ((fillValue dtd replace' isOuter isText tally' within scheme
          (if d = '\r' && scheme ≠ .replacement && rest'.head? = some '\n' then 1 else 0)
          filling' rest').mapError Snag.fault)) :
    Alike Filling.Agrees
      ((fillValue dtd replace isOuter isText tally within scheme 0 filling
        (c :: rest)).mapError Snag.fault)
      ((fillValue dtd replace' isOuter isText tally' within scheme 0 filling'
        (d :: rest')).mapError Snag.fault) := by
  obtain ⟨size, here⟩ := @fillValue_space dtd replace isOuter isText tally within scheme c space
    filling rest
  obtain ⟨size', there⟩ := @fillValue_space dtd replace' isOuter isText tally' within scheme d
    space' filling' rest'
  rw [here, there]
  exact (agrees.settle tally tally').bind fun filling filling' agrees =>
    (agrees.count tally tally' size size').bind fun filling filling' agrees =>
      next _ _ (agrees.pushSpace isText)

variable (alike : ∀ name text (filling filling' : Filling), filling.Agrees filling' →
    Alike Filling.Agrees ((replace name text filling).mapError Snag.fault)
      ((replace' name text filling').mapError Snag.fault))

include alike

theorem fillReference_alike {filling filling' : Filling} (agrees : filling.Agrees filling')
    (token : Token) :
    Alike Filling.Agrees (fillReference dtd replace isText within filling token)
      (fillReference dtd replace' isText within filling' token) := by
  cases token with
  | character digits =>
    simp only [fillReference]
    cases numberedChar? digits with
    | none => exact .refused _ _
    | some c =>
      dsimp only
      split
      next => exact .read (agrees.pushSpace isText)
      next => exact .read (agrees.push c)
  | entity name =>
    simp only [fillReference]
    cases predefinedEntity? name with
    | some c => exact .read (agrees.push c)
    | none =>
      cases dtd.valueEntity within name with
      | error fault => exact .refused _ _
      | ok text? =>
        cases text? with
        | none => exact .read agrees
        | some text => exact alike name text filling filling' agrees
  | _ => exact .read agrees

/-- What has been counted makes no difference below the limit. -/
theorem fillValue_alike (skip : Nat) {filling filling' : Filling}
    (agrees : filling.Agrees filling') (source : List Char) :
    Alike Filling.Agrees
      ((fillValue dtd replace isOuter isText tally within scheme skip filling source).mapError
        Snag.fault)
      ((fillValue dtd replace' isOuter isText tally' within scheme skip filling' source).mapError
        Snag.fault) := by
  induction source generalizing skip filling filling' with
  | nil => exact agrees.settle tally tally'
  | cons c rest ih =>
    cases skip with
    | succ skip => exact ih skip agrees
    | zero =>
      rcases value_char_cases c with plain | rfl | rfl | space
      · rw [fillValue_plain plain, fillValue_plain plain]
        exact ih 0 (agrees.push c)
      · rw [fillValue_reference, fillValue_reference]
        refine (agrees.settle tally tally').bind fun filling filling' agrees => ?_
        split
        next => exact .refused _ _
        next token _ _ =>
          exact (agrees.count tally tally' _ _).bind fun filling filling' agrees =>
            (fillReference_alike alike agrees token).bind fun filling filling' agrees =>
              ih _ agrees
      · rw [fillValue_sign, fillValue_sign]
        exact (agrees.settle tally tally').bind fun _ _ _ => .refused _ _
      · exact fillValue_space_alike agrees space space fun _ _ agrees => ih _ agrees

/-- A line ending is a space in a value, however it is spelled. -/
theorem fillValue_unified {filling filling' : Filling} (agrees : filling.Agrees filling')
    (source : List Char) :
    Alike Filling.Agrees
      ((fillValue dtd replace isOuter isText tally within .utf8 0 filling source).mapError
        Snag.fault)
      ((fillValue dtd replace' isOuter isText tally' within .utf8 0 filling'
        (unifyChars source)).mapError Snag.fault) := by
  induction length : source.length using Nat.strong_induction_on
    generalizing source filling filling' with
  | _ length ih =>
    subst length
    cases source with
    | nil => exact agrees.settle tally tally'
    | cons c rest =>
      have later (left : List Char) (shorter : left.length ≤ rest.length) {filling filling' : Filling}
          (agrees : filling.Agrees filling') :=
        ih left.length (Nat.lt_succ_of_le shorter) agrees left rfl
      by_cases isReturn : c = '\r'
      · subst isReturn
        by_cases follows : rest.head? = some '\n'
        · obtain ⟨more, rfl⟩ := List.head?_eq_some_iff.mp follows
          rw [unifyChars_break]
          exact fillValue_space_alike agrees (by decide) (by decide) fun _ _ agrees =>
            later more (by simp) agrees
        · rw [unifyChars_return follows]
          refine fillValue_space_alike agrees (by decide) (by decide) fun _ _ agrees => ?_
          simpa [follows] using later rest (Nat.le_refl _) agrees
      · rw [unifyChars_cons isReturn]
        rcases value_char_cases c with plain | rfl | rfl | space
        · rw [fillValue_plain plain, fillValue_plain plain]
          exact later rest (Nat.le_refl _) (agrees.push c)
        · rw [fillValue_reference, fillValue_reference]
          refine (agrees.settle tally tally').bind fun filling filling' agrees => ?_
          rw [show (⟨.utf8, .complete⟩ : Context) = .utf8 from rfl]
          cases read : Scan.reference .utf8 rest with
          | error stop =>
            obtain ⟨other, read'⟩ := (reference_unified rest).failed read
            rw [read']
            exact .refused _ _
          | ok value =>
            obtain ⟨token, left⟩ := value
            obtain ⟨read', skipped, length, front, front', shorter⟩ := exists_skip_of_reference read
            rw [read', front', front]
            dsimp only
            refine (agrees.count tally tally' _ _).bind fun filling filling' agrees =>
              (fillReference_alike alike agrees token).bind fun filling filling' agrees => ?_
            rw [length, fillValue_skip, fillValue_skip]
            exact later left shorter agrees
        · rw [fillValue_sign, fillValue_sign]
          exact (agrees.settle tally tally').bind fun _ _ _ => .refused _ _
        · refine fillValue_space_alike agrees space space fun _ _ agrees => ?_
          simpa [isReturn] using later rest (Nat.le_refl _) agrees

end Fill

/-! ## Attribute values -/

theorem replaceInValue_alike (dtd : Dtd) (isText : Bool) (depth : Nat) (within : List (List Char))
    (name text : List Char) {filling filling' : Filling} (agrees : filling.Agrees filling') :
    Alike Filling.Agrees
      ((replaceInValue dtd isText depth within name text filling).mapError Snag.fault)
      ((replaceInValue dtd isText depth within name text filling').mapError Snag.fault) := by
  induction depth generalizing within name text filling filling' with
  | zero => exact .refused _ _
  | succ depth ih =>
    rw [replaceInValue, replaceInValue]
    exact fillValue_alike (fun name text _ _ agrees => ih _ name text agrees) 0 agrees text

/-- The value of an attribute after another account, with its line endings unified or not. -/
theorem attributeValue_alike (dtd : Dtd) (isOuter isText : Bool) (tally tally' : Tally)
    (within : List (List Char)) {scheme : Scheme} (account account' : Account)
    {source source' : List Char}
    (same : source' = source ∨ scheme = .utf8 ∧ source' = unifyChars source) :
    Alike (fun value value' => value'.1 = value.1)
      ((dtd.attributeValue isOuter isText tally within scheme account source).mapError Snag.fault)
      ((dtd.attributeValue isOuter isText tally' within scheme account' source').mapError
        Snag.fault) := by
  have agrees : Filling.Agrees { account } { account := account' } := rfl
  have inner name text (filling filling' : Filling) (agrees : filling.Agrees filling') :=
    replaceInValue_alike dtd isText (dtd.entities.length + 1) within name text agrees
  have filled : Alike Filling.Agrees
      ((fillValue dtd (replaceInValue dtd isText (dtd.entities.length + 1) within) isOuter isText
        tally within scheme 0 { account } source).mapError Snag.fault)
      ((fillValue dtd (replaceInValue dtd isText (dtd.entities.length + 1) within) isOuter isText
        tally' within scheme 0 { account := account' } source').mapError Snag.fault) := by
    rcases same with rfl | ⟨rfl, rfl⟩
    · exact fillValue_alike inner 0 agrees _
    · exact fillValue_unified inner agrees source
  unfold Dtd.attributeValue
  dsimp only
  refine filled.andThen (fun _ failed => by rw [failed]; rfl) (fun _ failed => by rw [failed]; rfl) ?_
  intro filling filling' agrees first second
  rw [first, second]
  exact .read (agrees.finish isText)

end MemberDocs.Xml
