import MemberDocs.Proofs.Xml.LineEndings.Declarations
import MemberDocs.Proofs.Xml.LineEndings.Values

/-! # Prologs after different accounts

The prologs of a source and of the source with its line endings unified declare the same, although not the
same has been counted, unless one of them comes to the limit (`readProlog_alike`).
-/

namespace MemberDocs.Xml

open Text (unifyChars unifyChars_cons unifyChars_return unifyChars_break)

/-! ## Literals -/

theorem entityText_front (scheme : Scheme) (skipped rest : List Char) :
    entityText scheme skipped.length (skipped ++ rest) = entityText scheme 0 rest := by
  induction skipped with
  | nil => rfl
  | cons c more ih => exact ih

theorem entityText_percent (scheme : Scheme) (rest : List Char) :
    (entityText scheme 0 ('%' :: rest)).toOption = none := by
  rw [entityText, if_neg (by decide), if_pos rfl]
  split <;> rfl

theorem entityText_cons {scheme : Scheme} {c : Char} (unmarked : c ≠ '&' ∧ c ≠ '%' ∧ c ≠ '\r')
    (rest : List Char) :
    entityText scheme 0 (c :: rest) = (entityText scheme 0 rest).map (c :: ·) := by
  rw [entityText]
  simp [unmarked]

/-- A line ending in the text of an entity is a line feed, however it is spelled. -/
theorem entityText_unifyChars (text : List Char) :
    (entityText .utf8 0 (unifyChars text)).toOption = (entityText .utf8 0 text).toOption := by
  induction size : text.length using Nat.strong_induction_on generalizing text with
  | _ size ih =>
    subst size
    cases text with
    | nil => rfl
    | cons c rest =>
      have later := ih rest.length (by simp) rest rfl
      by_cases isReturn : c = '\r'
      · subst isReturn
        by_cases follows : rest.head? = some '\n'
        · obtain ⟨more, rfl⟩ := List.head?_eq_some_iff.mp follows
          rw [unifyChars_break]
          exact later
        · rw [unifyChars_return follows, entityText_cons (by decide), toOption_map, later,
            ← toOption_map, entityText]
          simp [follows]
      · rw [unifyChars_cons isReturn]
        by_cases percent : c = '%'
        · subst percent
          rw [entityText_percent, entityText_percent]
        · by_cases refers : c = '&'
          · subst refers
            rw [entityText, entityText, if_pos rfl, if_pos rfl,
              show (⟨.utf8, .complete⟩ : Context) = .utf8 from rfl]
            cases read : Scan.reference .utf8 rest with
            | error stop =>
              obtain ⟨other, read'⟩ := (reference_unified rest).failed read
              rw [read']
              cases stop <;> cases other <;> rfl
            | ok value =>
              obtain ⟨token, left⟩ := value
              obtain ⟨read', skipped, length, front, front', shorter⟩ := exists_skip_of_reference read
              have after := ih left.length (Nat.lt_succ_of_le shorter) left rfl
              rw [read']
              rcases (reference_of_scan read).2 with ⟨digits, rfl⟩ | ⟨name, rfl⟩
              · dsimp only
                split
                next => rfl
                next =>
                  rw [length, front', front, entityText_front, entityText_front, toOption_map,
                    toOption_map, after]
              · dsimp only
                rw [toOption_map, toOption_map, later]
          · rw [entityText_cons ⟨refers, percent, isReturn⟩,
              entityText_cons ⟨refers, percent, isReturn⟩, toOption_map, toOption_map, later]

theorem checkPublic_unifyChars (text : List Char) :
    (checkPublic (unifyChars text)).toOption = (checkPublic text).toOption := by
  have split := Text.span_unifyChars_of_breaks (p := isPublicChar) (by decide) (by decide) text
  simp only [List.span_eq_takeWhile_dropWhile] at split
  unfold checkPublic
  rw [(Prod.mk.inj split).2]
  rcases unifyChars_cases (text.dropWhile isPublicChar) with same | ⟨_, same, _, same'⟩ |
    ⟨_, _, same, _, same'⟩
  · rw [same]
    rfl
  · rw [same', same]
    rfl
  · rw [same', same]
    rfl

/-! ## Roles -/

/-- A role in whose literal line endings are unified. -/
def Role.unified : Role → Role
  | .doctypePublic text => .doctypePublic (unifyChars text)
  | .entityValue quote text => .entityValue quote (unifyChars text)
  | .publicIdentifier text => .publicIdentifier (unifyChars text)
  | .default quote text => .default quote (unifyChars text)
  | role => role

theorem map_ite_some {α β : Type} (f : α → β) {p : Prop} [Decidable p] {a : α}
    {other : Option α} {b : β} {other' : Option β} (same : f a = b) (later : other.map f = other') :
    (if p then some a else other).map f = if p then some b else other' := by
  split
  next => exact congrArg some same
  next => exact later

/-- A token leads to the same phase whatever the line endings in a literal are. -/
theorem next?_unified (phase : Phase) (depth : Nat) (token : DeclToken) :
    (phase.next? depth token).map (fun next => (next.1, next.2.unified)) =
      phase.next? depth token.unified := by
  cases token with
  | instruction target =>
    change (if target = Scan.declarationTarget then none
      else phase.step? depth (.instruction target)).map _ = if target = Scan.declarationTarget then
        none else phase.step? depth (.instruction target)
    split
    next => rfl
    next => cases phase <;> rfl
  | opening word | hashName word =>
    -- A keyword decides.
    cases phase <;> first | rfl | repeat' first | rfl | refine map_ite_some _ rfl ?_
  | name word occurrence =>
    cases occurrence with
    | once =>
      cases phase with
      | entityEnd parameter => cases parameter <;> first | rfl | exact map_ite_some _ rfl rfl
      | _ => first | rfl | repeat' first | rfl | refine map_ite_some _ rfl ?_
    | _ => cases phase <;> rfl
  | closeParen occurrence => cases occurrence <;> cases phase <;> rfl
  | _ => cases phase <;> rfl

/-- What has been declared, with another account of what has been read. -/
def Subset.recounted (subset : Subset) (account : Account) : Subset :=
  { subset with account }

theorem declareAttribute_recounted (subset : Subset) (account : Account) (isIdentifier : Bool)
    (default : Option (List Char)) :
    (subset.recounted account).declareAttribute isIdentifier default =
      (subset.declareAttribute isIdentifier default).recounted account := by
  unfold Subset.declareAttribute
  dsimp only
  change (if (default.isSome || isIdentifier) &&
    (subset.dtd.attribute? subset.element subset.attributeName).isSome then _ else _) = _
  split <;> rfl

theorem separate_recounted (subset : Subset) (account : Account) (comma : Bool) :
    (subset.recounted account).separate comma =
      (subset.separate comma).map fun subset => subset.recounted account := by
  obtain ⟨dtd, groups, entity, element, attributeName, isText, isIdentifier, counts⟩ := subset
  cases groups with
  | nil => rfl
  | cons separator outer =>
    change (if separator = some (!comma) then _ else _) =
      Except.map _ (if separator = some (!comma) then _ else _)
    split <;> rfl

theorem act_entityValue_alike (subset : Subset) (account : Account) (quote : Char)
    (text : List Char) :
    Alike (fun after after' => ∃ account, after' = after.recounted account)
      ((subset.act .utf8 (.entityValue quote text)).mapError Snag.fault)
      (((subset.recounted account).act .utf8 (.entityValue quote (unifyChars text))).mapError
        Snag.fault) := by
  unfold Subset.act
  dsimp only
  rw [show (subset.recounted account).counts = subset.counts from rfl,
    show (subset.recounted account).entity = subset.entity from rfl]
  cases subset.counts with
  | false => exact .read ⟨account, rfl⟩
  | true =>
    rcases outcomes_of_toOption (entityText_unifyChars text) with
      ⟨_, first, second⟩ | ⟨_, _, first, second⟩
    · rw [first, second]
      cases subset.entity <;> exact .read ⟨account, rfl⟩
    · rw [first, second]
      exact .refused _ _

/-- A default value is read against what has been counted, and leaves the declarations alike. -/
theorem act_default_alike (subset : Subset) (account : Account) (quote : Char)
    (text : List Char) :
    Alike (fun after after' => ∃ account, after' = after.recounted account)
      ((subset.act .utf8 (.default quote text)).mapError Snag.fault)
      (((subset.recounted account).act .utf8 (.default quote (unifyChars text))).mapError
        Snag.fault) := by
  unfold Subset.act
  dsimp only
  rw [show (subset.recounted account).counts = subset.counts from rfl]
  cases subset.counts with
  | false => exact .read ⟨account, rfl⟩
  | true =>
    refine (attributeValue_alike subset.dtd true subset.isText .counted .counted []
      subset.account account (Or.inr ⟨rfl, rfl⟩)).andThen (fun _ failed => by rw [failed]; rfl)
      (fun _ failed => ?_) ?_
    · change (subset.recounted account).dtd.attributeValue true (subset.recounted account).isText
        .counted [] .utf8 (subset.recounted account).account (unifyChars text) = _ at failed
      rw [failed]
      rfl
    · rintro ⟨value, counted⟩ ⟨_, counted'⟩ rfl first second
      change (subset.recounted account).dtd.attributeValue true (subset.recounted account).isText
        .counted [] .utf8 (subset.recounted account).account (unifyChars text) = _ at second
      rw [first, second]
      dsimp only
      rw [declareAttribute_recounted]
      exact .read ⟨counted', rfl⟩

/-- What a token does is the same whatever has been counted, but for the limit of the entities that its
literal may replace. -/
theorem act_alike (subset : Subset) (account : Account) (role : Role) :
    Alike (fun after after' => ∃ account, after' = after.recounted account)
      ((subset.act .utf8 role).mapError Snag.fault)
      (((subset.recounted account).act .utf8 role.unified).mapError Snag.fault) := by
  have counts : (subset.recounted account).counts = subset.counts := rfl
  have entity : (subset.recounted account).entity = subset.entity := rfl
  unfold Subset.act Role.unified
  cases role with
  | doctypePublic text | publicIdentifier text =>
    dsimp only
    rcases outcomes_of_toOption (checkPublic_unifyChars text) with
      ⟨_, first, second⟩ | ⟨_, _, first, second⟩
    · rw [first, second]
      exact .read ⟨account, rfl⟩
    · rw [first, second]
      exact .refused _ _
  | entityName name =>
    dsimp only
    rw [counts, show (subset.recounted account).dtd.entities = subset.dtd.entities from rfl]
    by_cases known : (predefinedEntity? name).isSome || !subset.counts ||
      (subset.dtd.entities.lookup name).isSome
    · rw [if_pos known, if_pos known]
      exact .read ⟨account, rfl⟩
    · rw [if_neg known, if_neg known]
      exact .read ⟨account, rfl⟩
  | entityValue quote text => exact act_entityValue_alike subset account quote text
  | entityNotation =>
    dsimp only
    rw [counts, entity]
    cases subset.entity <;> cases subset.counts <;> exact .read ⟨account, rfl⟩
  | noDefault =>
    dsimp only
    rw [counts, declareAttribute_recounted]
    cases subset.counts <;> exact .read ⟨account, rfl⟩
  | default quote text => exact act_default_alike subset account quote text
  | groupComma | groupBar =>
    dsimp only
    rw [separate_recounted]
    cases subset.separate _ with
    | error snag => exact .refused _ _
    | ok subset => exact .read ⟨account, rfl⟩
  | _ => exact .read ⟨account, rfl⟩

/-! ## Prologs -/

/-- Only an element takes the role of the document element. -/
theorem role_eq_element {phase next : Phase} {depth : Nat} {role : Role}
    (leads : phase.next? depth .element = some (next, role)) : role = .element := by
  cases phase <;> cases leads <;> rfl

theorem unified_eq_element_iff {role : Role} : role.unified = .element ↔ role = .element := by
  cases role <;> simp [Role.unified]

/-- A token leads to the document element whatever the line endings in a literal are. -/
theorem any_element_unified (phase : Phase) (depth : Nat) (token : DeclToken) :
    (phase.next? depth token.unified).any (·.2 = .element) =
      (phase.next? depth token).any (·.2 = .element) := by
  rw [← next?_unified]
  cases phase.next? depth token <;> simp [unified_eq_element_iff]

section Token

variable {phase next : Phase} {subset after : Subset} {position : Position} {c : Char}
  {rest left : List Char} {token : DeclToken} {role : Role} {account : Account}
  (scanned : DeclToken.scan .utf8 (c :: rest) = .ok (token, left))

include scanned

/-- A token that is not the document element is counted, and then does what its role asks for. -/
theorem readProlog_of_token (other : (phase.next? subset.groups.length token).any (·.2 = .element) = false) :
    readProlog .utf8 phase subset 0 position (c :: rest) =
      match subset.account.chargeFront .utf8 position (c :: rest) left with
      | .error fault => .error fault
      | .ok account =>
        match phase.next? subset.groups.length token with
        | none => .error (misplacedFault token, position)
        | some (next, role) =>
          match (subset.recounted account).act .utf8 role with
          | .error snag => .error (snag.fault, role.place snag position)
          | .ok after =>
            readProlog .utf8 next after (rest.length - left.length) (position.step c rest) rest := by
  rw [readProlog]
  simp only [scanned, other, Bool.false_eq_true, if_false, Context.utf8_scheme]
  rfl

/-- A token in a prolog leads past its source. -/
theorem exists_place_of_token (leads : phase.next? subset.groups.length token = some (next, role))
    (other : role ≠ .element) :
    left.length ≤ rest.length ∧ ∃ place,
      readProlog .utf8 next after (rest.length - left.length) (position.step c rest) rest =
        readProlog .utf8 next after 0 place left := by
  have notElement : token ≠ .element := fun same => other (role_eq_element (same ▸ leads))
  obtain ⟨skipped, rfl⟩ := DeclToken.left_of_scan scanned notElement
  obtain ⟨place, skips⟩ := @exists_place_of_skip _ (readProlog .utf8 next after)
    (fun _ _ _ _ => by rw [readProlog]) (position.step c (skipped ++ left)) skipped left
  refine ⟨by simp, place, ?_⟩
  rw [← skips, List.length_append, Nat.add_sub_cancel]

end Token

/-- The prologs of a source and of the source with its line endings unified declare the same, and end
at the same element. -/
theorem readProlog_alike (phase : Phase) (subset : Subset) (account : Account)
    (position position' : Position) (source : List Char) :
    Alike (fun read read' =>
        (∃ account, read'.1 = read.1.recounted account) ∧ read'.2.2 = unifyChars read.2.2)
      ((readProlog .utf8 phase subset 0 position source).mapError Prod.fst)
      ((readProlog .utf8 phase (subset.recounted account) 0 position'
        (unifyChars source)).mapError Prod.fst) := by
  induction length : source.length using Nat.strong_induction_on
    generalizing phase subset account position position' source with
  | _ length ih =>
    subst length
    cases source with
    | nil => exact .refused _ _
    | cons c rest =>
      obtain ⟨d, more, unified⟩ : ∃ d more, unifyChars (c :: rest) = d :: more :=
        List.exists_cons_of_ne_nil (by simp)
      have scans := DeclToken.scan_unified (c :: rest)
      rw [unified] at scans ⊢
      rcases scans.outcomes with ⟨token, left, scanned, scanned'⟩ | ⟨_, _, scanned, scanned'⟩
      · have leads := next?_unified phase subset.groups.length token
        have groups : (subset.recounted account).groups = subset.groups := rfl
        have reaches := any_element_unified phase subset.groups.length token
        cases element : (phase.next? subset.groups.length token).any (·.2 = .element) with
        | true =>
          rw [readProlog, readProlog]
          simp only [scanned, scanned', groups, reaches, element, if_true]
          exact .read ⟨⟨account, rfl⟩, unified.symm⟩
        | false =>
          have element' : (phase.next? (subset.recounted account).groups.length token.unified).any
              (·.2 = .element) = false := reaches.trans element
          rw [readProlog_of_token scanned element, readProlog_of_token scanned' element']
          have counts : Alike (fun _ _ => True)
              ((subset.account.chargeFront .utf8 position (c :: rest) left).mapError Prod.fst)
              (((subset.recounted account).account.chargeFront .utf8 position' (d :: more)
                (unifyChars left)).mapError Prod.fst) := Account.alike_chargeParts ..
          refine counts.andThen (fun _ failed => by rw [failed]; rfl)
            (fun _ failed => by rw [failed]; rfl) fun counted counted' _ first second => ?_
          rw [first, second, groups]
          dsimp only
          cases next : phase.next? subset.groups.length token with
          | none =>
            rw [next] at leads
            rw [← leads]
            exact .refused _ _
          | some value =>
            obtain ⟨nextPhase, role⟩ := value
            rw [next] at leads element
            have leads' : phase.next? subset.groups.length token.unified =
              some (nextPhase, role.unified) := leads.symm
            have notElement : role ≠ .element := by simpa using element
            have notElement' := mt unified_eq_element_iff.mp notElement
            rw [leads', show (subset.recounted account).recounted counted' =
              (subset.recounted counted).recounted counted' from rfl]
            dsimp only
            refine (act_alike (subset.recounted counted) counted' role).andThen
              (fun _ failed => by rw [failed]; rfl) (fun _ failed => by rw [failed]; rfl) ?_
            rintro after _ ⟨final, rfl⟩ acted acted'
            obtain ⟨shorter, place, here⟩ := exists_place_of_token scanned next notElement
            obtain ⟨_, place', there⟩ := exists_place_of_token scanned' leads' notElement'
            rw [acted, acted']
            dsimp only
            rw [here, there]
            exact ih left.length (Nat.lt_succ_of_le shorter) nextPhase after final place place' left
              rfl
      · rw [readProlog, readProlog, scanned, scanned']
        exact .refused _ _

end MemberDocs.Xml
