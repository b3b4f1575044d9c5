import MemberDocs.Proofs.Doc.EventPlaces
import MemberDocs.Proofs.Xml.LineEndings.Tokens
import MemberDocs.Proofs.Xml.LineEndings.Values

/-! # Content after different accounts

The elements of a source and of the source with its line endings unified have the same tokens up to their
ends (`tokensFrom_unified`). What the tokens tell is the same but for its places, although not the same
has been counted, unless one of them comes to the limit (`readTokens_alike`).
-/

namespace MemberDocs.Xml

open Text (unifyChars unifyChars_cons)

/-! ## Cutting -/

@[simp] theorem opens_unified (token : Token) : token.unified.opens = token.opens := by
  cases token <;> rfl

@[simp] theorem isTag_unified (token : Token) : token.unified.isTag = token.isTag := by
  cases token <;> rfl

theorem textRun_filled {c : Char} {rest text left : List Char} (unmarked : ¬ (c = '<' ∨ c = '&'))
    (read : textRun .utf8 (c :: rest) = .ok (text, left)) : text ≠ [] := by
  rintro rfl
  rw [textRun.eq_def] at read
  split at read
  next same => cases same
  next => cases read
  next same =>
    obtain ⟨rfl, rfl⟩ := List.cons.inj same
    rw [if_neg (by simpa using unmarked)] at read
    repeat' split at read
    all_goals cases read

theorem lexeme_ne_nil {token : Token} (filled : ∀ text, token = .text text → text ≠ []) :
    token.lexeme ≠ [] := by
  cases token with
  | text text => exact filled text rfl
  | character digits => rw [lexeme_character]; simp
  | entity name => rw [lexeme_entity]; simp
  | cdata source => rw [lexeme_cdata]; simp
  | startTag name attributes trail empty => rw [lexeme_startTag]; simp
  | endTag name trail => rw [lexeme_endTag]; simp
  | comment body => rw [lexeme_comment]; simp
  | instruction target body => rw [lexeme_instruction]; simp

/-- A token of a source has a spelling. -/
theorem exists_lexeme_of_scan {c : Char} {rest left : List Char} {token : Token}
    (scanned : Token.scan .utf8 (c :: rest) = .ok (token, left)) :
    ∃ more, token.lexeme = c :: more ∧ rest = more ++ left := by
  have filled : token.lexeme ≠ [] := by
    refine lexeme_ne_nil ?_
    rintro text rfl
    cases Token.scanned_of_scan scanned with
    | text unmarked inside => exact textRun_filled (not_or.mpr (unmarked c rfl)) inside
  obtain ⟨d, more, lexeme⟩ := List.exists_cons_of_ne_nil filled
  have whole := lexeme_of_scan scanned
  rw [lexeme] at whole
  obtain ⟨rfl, rest⟩ := List.cons.inj whole
  exact ⟨more, lexeme, rest⟩

/-- A token at the front is the first one of the source. -/
theorem exists_tokensFrom_of_scan {c : Char} {rest left : List Char} {token : Token}
    (scanned : Token.scan .utf8 (c :: rest) = .ok (token, left)) (depth : Option Int)
    (position : Position) :
    left.length ≤ rest.length ∧ ∃ place, tokensFrom .utf8 depth false 0 position (c :: rest) =
      let depth := depth.map (· + token.opens)
      let more := tokensFrom .utf8 depth (token.isTag && depth = some 0) 0 place left
      (⟨token, position⟩ :: more.1, more.2) := by
  obtain ⟨skipped, lexeme, rfl⟩ := exists_lexeme_of_scan scanned
  have length : token.lexeme.length - 1 = skipped.length := by rw [lexeme]; rfl
  obtain ⟨place, skips⟩ := @exists_place_of_skip _ (tokensFrom .utf8 (depth.map (· + token.opens))
    (token.isTag && depth.map (· + token.opens) = some 0)) (fun _ _ _ _ => by rw [tokensFrom])
    (position.step c (skipped ++ left)) skipped left
  refine ⟨by simp, place, ?_⟩
  rw [tokensFrom]
  simp only [scanned, Bool.false_eq_true, if_false, length, skips]

/-- Two sources that are cut into the same tokens, but for line endings, up to the ends of their
outermost elements; or neither element ends. -/
inductive CutAlike : List Placed × TokensEnd → List Placed × TokensEnd → Prop where
  | closed {tokens tokens' : List Placed}
      (same : List.Forall₂ (fun placed placed' => placed'.token = placed.token.unified) tokens tokens')
      (place place' : Position) (rest : List Char) :
      CutAlike (tokens, .closed place rest) (tokens', .closed place' (unifyChars rest))
  | unclosed {first second : List Placed × TokensEnd}
      (first_ : ∀ place rest, first.2 ≠ .closed place rest)
      (second_ : ∀ place rest, second.2 ≠ .closed place rest) : CutAlike first second

theorem CutAlike.cons {first second : List Placed × TokensEnd} (alike : CutAlike first second)
    (token : Token) (position position' : Position) :
    CutAlike (⟨token, position⟩ :: first.1, first.2)
      (⟨token.unified, position'⟩ :: second.1, second.2) := by
  cases alike with
  | closed same place place' rest =>
    exact .closed (.cons rfl same) place place' rest
  | unclosed first_ second_ => exact .unclosed first_ second_

theorem tokensFrom_unified (depth : Option Int) (stopping : Bool) (position position' : Position)
    (source : List Char) :
    CutAlike (tokensFrom .utf8 depth stopping 0 position source)
      (tokensFrom .utf8 depth stopping 0 position' (unifyChars source)) := by
  induction length : source.length using Nat.strong_induction_on
    generalizing depth stopping position position' source with
  | _ length ih =>
    subst length
    cases stopping with
    | true =>
      rw [tokensFrom_stopping, tokensFrom_stopping]
      exact .closed .nil position position' source
    | false =>
      cases source with
      | nil => exact .unclosed (by rintro _ _ ⟨⟩) (by rintro _ _ ⟨⟩)
      | cons c rest =>
        obtain ⟨d, more, unified⟩ : ∃ d more, unifyChars (c :: rest) = d :: more :=
          List.exists_cons_of_ne_nil (by simp)
        have scans := scan_unified (c :: rest)
        rw [unified] at scans ⊢
        rcases scans with scans | ⟨snag, text, scanned, scanned'⟩
        · rcases scans.outcomes with ⟨token, left, scanned, scanned'⟩ | ⟨_, _, scanned, scanned'⟩
          · obtain ⟨shorter, place, same⟩ := exists_tokensFrom_of_scan scanned depth position
            obtain ⟨_, place', same'⟩ := exists_tokensFrom_of_scan scanned' depth position'
            rw [same, same']
            simp only [opens_unified, isTag_unified]
            exact (ih left.length (Nat.lt_succ_of_le shorter) _ _ place place' left rfl).cons token
              position position'
          · rw [tokensFrom, tokensFrom, scanned, scanned']
            exact .unclosed (by rintro _ _ ⟨⟩) (by rintro _ _ ⟨⟩)
        · -- The return at the end is refused; without it the end tag is missing.
          obtain ⟨_, place', same'⟩ := exists_tokensFrom_of_scan scanned' depth position'
          rw [same', tokensFrom, scanned]
          exact .unclosed (by rintro _ _ ⟨⟩) (by rintro _ _ ⟨⟩)

/-- The fault that ends the tokens of a source, if one does. -/
def TokensEnd.fault? : TokensEnd → Option Fault
  | .faulty fault _ => some fault
  | _ => none

/-- Where a source starts makes no difference for its tokens. -/
theorem tokensFrom_moved (context : Context) (depth : Option Int) (stopping : Bool) (skip : Nat)
    (position position' : Position) (source : List Char) :
    List.Forall₂ (fun placed placed' => placed'.token = placed.token)
        (tokensFrom context depth stopping skip position source).1
        (tokensFrom context depth stopping skip position' source).1 ∧
      (tokensFrom context depth stopping skip position' source).2.fault? =
        (tokensFrom context depth stopping skip position source).2.fault? := by
  induction source generalizing depth stopping skip position position' with
  | nil =>
    rw [tokensFrom, tokensFrom]
    split <;> exact ⟨.nil, rfl⟩
  | cons c rest ih =>
    cases skip with
    | succ skip => exact ih depth stopping skip _ _
    | zero =>
      rw [tokensFrom, tokensFrom]
      dsimp only
      split
      next => exact ⟨.nil, rfl⟩
      next =>
        split
        next => exact ⟨.nil, rfl⟩
        next => exact ⟨.cons rfl (ih _ _ _ _ _).1, (ih _ _ _ _ _).2⟩

/-! ## Telling -/

namespace Reading

/-- What has been read, without its places and without the account of it. -/
def unplaced (reading : Reading) : Reading :=
  { reading with buffer := {}, events := reading.events.map Event.unplaced, account := {} }

@[simp] theorem unplaced_openNames (reading : Reading) :
    reading.unplaced.openNames = reading.openNames := rfl

theorem unplaced_tell (reading : Reading) (position : Position) (event : Event) :
    (reading.tell position event).unplaced = reading.unplaced.tell {} event.unplaced := by
  unfold Reading.tell Reading.unplaced
  dsimp only
  split <;> rfl

variable {reading reading' : Reading} (same : reading'.unplaced = reading.unplaced)

include same

theorem unplaced_tell_congr (position position' : Position) {event event' : Event}
    (bare : event'.unplaced = event.unplaced) :
    (reading'.tell position' event').unplaced = (reading.tell position event).unplaced := by
  rw [unplaced_tell, unplaced_tell, same, bare]

theorem unplaced_addData_congr (text : List Char) (portions portions' : List (Nat × Position)) :
    (reading'.addData text portions').unplaced = (reading.addData text portions).unplaced :=
  congrArg (fun reading => { reading with pending := text :: reading.pending }) same

theorem openNames_of_unplaced : reading'.openNames = reading.openNames := by
  simpa using congrArg Reading.openNames same

end Reading

/-- Two attributes with the same name, whose values differ in their line endings at most. -/
def RawAttribute.Respells (scheme : Scheme) (a a' : RawAttribute) : Prop :=
  a'.name = a.name ∧ (a'.value = a.value ∨ scheme = .utf8 ∧ a'.value = unifyChars a.value)

section Telling

variable {dtd : Dtd}

theorem readAttributes_alike {isOuter : Bool} {tally : Tally} {within : List (List Char)}
    {scheme : Scheme} {element : List Char} {raws raws' : List RawAttribute}
    (each : List.Forall₂ (RawAttribute.Respells scheme) raws raws') (position position' : Position)
    (before before' : List Char) (seen : List (List Char × List Char)) (account account' : Account) :
    Alike (fun read read' => read'.1 = read.1)
      ((readAttributes dtd isOuter tally within scheme element position before seen account
        raws).mapError Prod.fst)
      ((readAttributes dtd isOuter tally within scheme element position' before' seen account'
        raws').mapError Prod.fst) := by
  induction each generalizing before before' seen account account' with
  | nil => exact .read rfl
  | @cons a a' rest rest' same _ ih =>
    obtain ⟨named, valued⟩ := same
    rw [readAttributes, readAttributes, named]
    dsimp only
    split
    next => exact .refused _ _
    next =>
      refine (attributeValue_alike dtd isOuter ((dtd.attribute? element a.name).all (·.isText)) _ _
        within account account' valued).andThen (fun _ failed => by rw [failed]; rfl)
        (fun _ failed => by rw [failed]; rfl) ?_
      rintro ⟨value, counted⟩ ⟨_, counted'⟩ rfl first second
      rw [first, second]
      exact ih _ _ _ _ _

/-- Two tokens that say the same at a site. -/
inductive Site.Means (site : Site) : Token → Token → Prop where
  | text {source source' : List Char} (same : site.text source' = site.text source) :
      Means site (.text source) (.text source')
  | cdata {source source' : List Char} (same : site.text source' = site.text source) :
      Means site (.cdata source) (.cdata source')
  | character (digits : List Char) : Means site (.character digits) (.character digits)
  | entity (name : List Char) : Means site (.entity name) (.entity name)
  | startTag {raws raws' : List RawAttribute}
      (each : List.Forall₂ (RawAttribute.Respells site.scheme) raws raws') (name trail trail' : List Char)
      (empty : Bool) : Means site (.startTag name raws trail empty) (.startTag name raws' trail' empty)
  | endTag (name trail trail' : List Char) : Means site (.endTag name trail) (.endTag name trail')
  | comment (body body' : List Char) : Means site (.comment body) (.comment body')
  | instruction (target body body' : List Char) :
      Means site (.instruction target body) (.instruction target body')

theorem Site.Means.refl (site : Site) (token : Token) : site.Means token token := by
  cases token with
  | text => exact .text rfl
  | cdata => exact .cdata rfl
  | character digits => exact .character digits
  | entity name => exact .entity name
  | startTag name raws trail empty =>
    exact .startTag (List.forall₂_same.mpr fun _ _ => ⟨rfl, Or.inl rfl⟩) name trail trail empty
  | endTag name trail => exact .endTag name trail trail
  | comment body => exact .comment body body
  | instruction target body => exact .instruction target body body

/-- In the source a token says the same with its line endings unified. -/
theorem Site.means_unified {site : Site} (utf8 : site.scheme = .utf8) (token : Token) :
    site.Means token token.unified := by
  have text (source : List Char) : site.text (unifyChars source) = site.text source := by
    unfold Site.text
    rw [utf8]
    exact Text.unifyChars_unifyChars source
  cases token with
  | text source => exact .text (text source)
  | cdata source => exact .cdata (text source)
  | character digits => exact .character digits
  | entity name => exact .entity name
  | startTag name raws trail empty =>
    refine .startTag ?_ name trail (unifyChars trail) empty
    rw [List.forall₂_map_right_iff, List.forall₂_same]
    exact fun a _ => ⟨rfl, Or.inr ⟨utf8, rfl⟩⟩
  | endTag name trail => exact .endTag name trail (unifyChars trail)
  | comment body => exact .comment body (unifyChars body)
  | instruction target body => exact .instruction target body (unifyChars body)

section Token

variable {replace replace' : List Char → List Char → Position → Reading → Except PlacedFault Reading}
  {site : Site} (position position' : Position) {reading reading' : Reading}
  (same : reading'.unplaced = reading.unplaced)

include same

theorem startTag_alike {raws raws' : List RawAttribute}
    (each : List.Forall₂ (RawAttribute.Respells site.scheme) raws raws')
    (name trail trail' : List Char) (empty : Bool) :
    Alike (fun after after' => after'.unplaced = after.unplaced)
      ((reading.token dtd replace site position (.startTag name raws trail empty)).mapError Prod.fst)
      ((reading'.token dtd replace' site position' (.startTag name raws' trail' empty)).mapError
        Prod.fst) := by
  rw [Reading.token, Reading.token]
  dsimp only
  refine (readAttributes_alike each position position' ('<' :: name) ('<' :: name) []
    reading.account reading'.account).andThen (fun _ failed => by rw [failed]; rfl)
    (fun _ failed => by rw [failed]; rfl) ?_
  rintro ⟨_, account⟩ ⟨given, account'⟩ rfl first second
  rw [first, second]
  dsimp only
  let tag (position : Position) : Tag :=
    ⟨String.ofList name, withDefaults dtd name given, position⟩
  have told : (reading'.tell position' (.start (tag position'))).unplaced =
      (reading.tell position (.start (tag position))).unplaced :=
    Reading.unplaced_tell_congr same position position' rfl
  split
  next =>
    have started : Reading.unplaced
          { reading'.tell position' (.start (tag position')) with account := account' } =
        Reading.unplaced { reading.tell position (.start (tag position)) with account } := told
    exact .read (Reading.unplaced_tell_congr started position position' rfl)
  next =>
    exact .read
      (congrArg (fun reading => { reading with openNames := name :: reading.openNames }) told)

theorem endTag_alike (name trail trail' : List Char) :
    Alike (fun after after' => after'.unplaced = after.unplaced)
      ((reading.token dtd replace site position (.endTag name trail)).mapError Prod.fst)
      ((reading'.token dtd replace' site position' (.endTag name trail')).mapError Prod.fst) := by
  rw [Reading.token, Reading.token, Reading.openNames_of_unplaced same]
  split
  next => exact .refused _ _
  next =>
    split
    next => exact .refused _ _
    next current outer _ =>
      have told : (reading'.tell position' (.finish (String.ofList name))).unplaced =
          (reading.tell position (.finish (String.ofList name))).unplaced :=
        Reading.unplaced_tell_congr same position position' rfl
      split
      next => exact .read (congrArg (fun reading => { reading with openNames := outer }) told)
      next => exact .refused _ _

variable (alike : ∀ name text position position' (reading reading' : Reading),
    reading'.unplaced = reading.unplaced →
      Alike (fun after after' => after'.unplaced = after.unplaced)
        ((replace name text position reading).mapError Prod.fst)
        ((replace' name text position' reading').mapError Prod.fst))

include alike

theorem entity_alike (name : List Char) :
    Alike (fun after after' => after'.unplaced = after.unplaced)
      ((reading.token dtd replace site position (.entity name)).mapError Prod.fst)
      ((reading'.token dtd replace' site position' (.entity name)).mapError Prod.fst) := by
  rw [Reading.token, Reading.token]
  split
  next c _ => exact .read (Reading.unplaced_addData_congr same [c] [] [])
  next =>
    split
    next =>
      split
      next => exact .refused _ _
      next => exact .read same
    next =>
      split
      next => exact .refused _ _
      next =>
        split
        next => exact alike _ _ _ _ _ _ same
        next => exact .read same
        next => exact .refused _ _

theorem token_alike {token token' : Token} (means : site.Means token token') :
    Alike (fun after after' => after'.unplaced = after.unplaced)
      ((reading.token dtd replace site position token).mapError Prod.fst)
      ((reading'.token dtd replace' site position' token').mapError Prod.fst) := by
  cases means with
  | text said | cdata said =>
    rw [Reading.token, Reading.token, said]
    exact .read (Reading.unplaced_addData_congr same _ _ _)
  | character digits =>
    rw [Reading.token, Reading.token]
    split
    next => exact .refused _ _
    next => exact .read (Reading.unplaced_addData_congr same _ _ _)
  | entity name => exact entity_alike position position' same alike name
  | startTag each name trail trail' empty =>
    exact startTag_alike position position' same each name trail trail' empty
  | endTag name trail trail' => exact endTag_alike position position' same name trail trail'
  | comment => exact .read same
  | instruction target =>
    rw [Reading.token, Reading.token]
    split
    next => exact .refused _ _
    next => exact .read same

/-- What a token means makes the same difference, once both of them have been counted. -/
theorem read_alike {token token' : Token} (means : site.Means token token') :
    Alike (fun after after' => after'.unplaced = after.unplaced)
      ((reading.read dtd replace site position token).mapError Prod.fst)
      ((reading'.read dtd replace' site position' token').mapError Prod.fst) := by
  unfold Reading.read
  refine (Account.alike_chargeParts reading.account reading'.account ..).andThen
    (fun _ failed => by rw [failed]; rfl) (fun _ failed => by rw [failed]; rfl) ?_
  intro account account' _ first second
  rw [first, second]
  exact @token_alike dtd replace replace' site position position' { reading with account }
    { reading' with account := account' } same alike _ _ means

omit same in
theorem tokens_alike {tokens tokens' : List Placed}
    (each : List.Forall₂ (fun placed placed' => site.Means placed.token placed'.token) tokens tokens')
    (place? place?' : Option Position) {reading reading' : Reading}
    (same : reading'.unplaced = reading.unplaced) :
    Alike (fun after after' => after'.unplaced = after.unplaced)
      ((reading.tokens dtd replace site place? tokens).mapError Prod.fst)
      ((reading'.tokens dtd replace' site place?' tokens').mapError Prod.fst) := by
  induction each generalizing reading reading' with
  | nil => exact .read same
  | @cons placed placed' _ _ means _ ih =>
    rw [Reading.tokens, Reading.tokens]
    refine (read_alike (place?.getD placed.position) (place?'.getD placed'.position) same alike
      means).andThen (fun _ failed => by rw [failed]; rfl) (fun _ failed => by rw [failed]; rfl)
      fun after after' same first second => ?_
    rw [first, second]
    exact ih same

end Token

theorem replaceInContent_alike (depth : Nat) (within : List (List Char)) (name text : List Char)
    (position position' : Position) {reading reading' : Reading}
    (same : reading'.unplaced = reading.unplaced) :
    Alike (fun after after' => after'.unplaced = after.unplaced)
      ((replaceInContent dtd depth within name text position reading).mapError Prod.fst)
      ((replaceInContent dtd depth within name text position' reading').mapError Prod.fst) := by
  induction depth generalizing within name text position position' reading reading' with
  | zero => exact .refused _ _
  | succ depth ih =>
    rw [replaceInContent, replaceInContent]
    dsimp only
    rw [congrArg List.length (Reading.openNames_of_unplaced same)]
    obtain ⟨each, ends⟩ :=
      tokensFrom_moved ⟨.replacement, .complete⟩ none false 0 position position' text
    generalize tokensFrom ⟨.replacement, .complete⟩ none false 0 position text = cut at each ends ⊢
    generalize tokensFrom ⟨.replacement, .complete⟩ none false 0 position' text = cut' at each ends ⊢
    have means : List.Forall₂ (fun placed placed' =>
        Site.Means ⟨.replacement, name :: within, reading.openNames.length⟩ placed.token placed'.token)
        cut.1 cut'.1 := by
      refine each.imp fun placed placed' same => ?_
      rw [same]
      exact .refl _ placed.token
    refine (tokens_alike (fun inner text position position' _ _ same =>
      ih (name :: within) inner text position position' same) means (some position) (some position')
      same).andThen (fun _ failed => by rw [failed]; rfl) (fun _ failed => by rw [failed]; rfl)
      fun after after' same first second => ?_
    rw [first, second]
    obtain ⟨_, ending⟩ := cut
    obtain ⟨_, ending'⟩ := cut'
    dsimp only at ends ⊢
    rw [Reading.openNames_of_unplaced same]
    cases ending with
    | faulty fault place =>
      cases ending' with
      | faulty fault' place' => exact .refused _ _
      | _ => cases ends
    | _ =>
      cases ending' with
      | faulty fault' place' => cases ends
      | _ =>
        dsimp only
        split
        next => exact .read same
        next => exact .refused _ _

/-- What the tokens of a source tell is told by the source with its line endings unified. -/
theorem readTokens_alike (account account' : Account) {tokens tokens' : List Placed}
    (each : List.Forall₂ (fun placed placed' => placed'.token = placed.token.unified) tokens tokens') :
    Alike (fun after after' => after'.unplaced = after.unplaced)
      ((readTokens dtd .utf8 account tokens).mapError Prod.fst)
      ((readTokens dtd .utf8 account' tokens').mapError Prod.fst) := by
  refine tokens_alike (fun name text position position' _ _ same =>
    replaceInContent_alike (dtd.entities.length + 1) [] name text position position' same)
    (each.imp fun placed placed' unified => ?_) none none rfl
  rw [unified]
  exact Site.means_unified rfl placed.token

end Telling

end MemberDocs.Xml
