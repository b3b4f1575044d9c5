import MemberDocs.Proofs.Xml.TextSources

/-! # How much entities give

An entity whose text holds only comments and references to such entities changes nothing but the account
of what has been read: it counts a fixed size (`Dtd.Spends`), that of its own text and of all the entities
in it, and is refused if that is more than the limit leaves. The text of `n` references has `n` times the
size of a reference and of the entity it refers to (`spends_references`), so that every level of entities
multiplies it.
-/

namespace MemberDocs.Xml

/-- Texts of entities are read up to their end. -/
def Context.replacement : Context := ⟨.replacement, .complete⟩

/-- A reading after `size` more bytes have come out of entities, or its refusal at the limit. -/
def Reading.spend (position : Position) (size : Nat) (reading : Reading) :
    Except PlacedFault Reading :=
  match reading.account.charge .indirect size with
  | none => .error (.amplification, position)
  | some account => .ok { reading with account }

variable {dtd : Dtd} {depth size : Nat} {within : List (List Char)} {name text : List Char}
  {position : Position} {reading : Reading}

theorem Reading.spend_eq :
    reading.spend position size =
      if (reading.account.add .indirect size).isExceeded then .error (.amplification, position)
      else .ok { reading with account := reading.account.add .indirect size } := by
  rw [Reading.spend, Account.charge_eq (by decide)]
  by_cases exceeded : (reading.account.add .indirect size).isExceeded
  · rw [if_pos exceeded, if_pos exceeded]
  · rw [if_neg exceeded, if_neg exceeded]

theorem Reading.spend_zero (spare : reading.account.isExceeded = false) :
    reading.spend position 0 = .ok reading := by
  have same : reading.account.add .indirect 0 = reading.account := rfl
  rw [Reading.spend_eq, same, spare]
  rfl

/-- Two sizes are spent one after the other, since what is too much stays too much. -/
theorem Reading.spend_add (first second : Nat) :
    (reading.spend position first).bind (Reading.spend position second) =
      reading.spend position (first + second) := by
  rw [Reading.spend_eq, Reading.spend_eq, ← Account.add_add]
  by_cases exceeded : (reading.account.add .indirect first).isExceeded
  · rw [if_pos exceeded, if_pos (Account.isExceeded_add_indirect exceeded)]
    rfl
  · rw [if_neg exceeded]
    exact Reading.spend_eq

/-- What is spent has not passed the limit. -/
theorem Reading.spare_of_spend {after : Reading} (spent : reading.spend position size = .ok after) :
    after.account.isExceeded = false := by
  rw [Reading.spend_eq] at spent
  split at spent
  next => cases spent
  next spare =>
    obtain rfl := Except.ok.inj spent
    exact Bool.not_eq_true _ ▸ spare

/-- Reading the text of the entity does nothing but spend the size, where the limit has not been passed
yet. -/
def Dtd.Spends (dtd : Dtd) (depth : Nat) (within : List (List Char)) (name text : List Char)
    (size : Nat) : Prop :=
  ∀ position reading, reading.account.isExceeded = false →
    replaceInContent dtd depth within name text position reading = reading.spend position size

/-- The token does nothing but spend the size inside of an entity, where the limit has not been passed
yet. -/
def Dtd.Costs (dtd : Dtd) (depth : Nat) (within : List (List Char)) (token : Token) (size : Nat) :
    Prop :=
  ∀ openBefore position reading, reading.account.isExceeded = false →
    Reading.read dtd (replaceInContent dtd depth within) ⟨.replacement, within, openBefore⟩ position
      reading token = reading.spend position size

section Whole

variable {replace : List Char → List Char → Position → Reading → Except PlacedFault Reading}
  {token : Token}

/-- A token that is counted as a whole is read once it has been. -/
theorem read_of_whole {site : Site} (whole : token.parts site.scheme = [token.lexeme]) :
    reading.read dtd replace site position token =
      match reading.account.charge site.tally (site.scheme.size token.lexeme) with
      | none => .error (.amplification, position)
      | some account => { reading with account }.token dtd replace site position token := by
  have place : site.place position [token.lexeme] = [(token.lexeme, position)] := by
    unfold Site.place
    split <;> rfl
  unfold Reading.read
  rw [whole, place, Account.chargeParts]
  cases reading.account.charge site.tally (site.scheme.size token.lexeme) <;> rfl

/-- Inside of an entity it spends its own size first. -/
theorem read_of_whole_inside (whole : token.parts .replacement = [token.lexeme]) (openBefore : Nat) :
    reading.read dtd replace ⟨.replacement, name :: within, openBefore⟩ position token =
      (reading.spend position (Scheme.replacement.size token.lexeme)).bind fun reading =>
        reading.token dtd replace ⟨.replacement, name :: within, openBefore⟩ position token := by
  rw [read_of_whole whole, Reading.spend]
  have tally : Site.tally ⟨.replacement, name :: within, openBefore⟩ = .indirect := rfl
  rw [tally]
  cases reading.account.charge .indirect (Scheme.replacement.size token.lexeme) <;> rfl

/-- In the source before any entity it is only added to what has been counted. -/
theorem read_of_whole_first (whole : token.parts .utf8 = [token.lexeme])
    (counted : reading.account = { direct := size }) :
    reading.read dtd replace ⟨.utf8, [], 0⟩ position token =
      { reading with account := { direct := size + Scheme.utf8.size token.lexeme } }.token dtd replace
        ⟨.utf8, [], 0⟩ position token := by
  have spares : Account.Spares { direct := size } 0 := Nat.zero_le size
  have tally : Site.tally ⟨.utf8, [], 0⟩ = .direct := rfl
  rw [read_of_whole whole, counted, tally, spares.charge_direct]
  rfl

end Whole

theorem costs_comment (body : List Char) :
    dtd.Costs depth (name :: within) (.comment body)
      (Scheme.replacement.size (Token.comment body).lexeme) := by
  intro openBefore position reading _
  rw [read_of_whole_inside rfl]
  cases reading.spend position (Scheme.replacement.size (Token.comment body).lexeme) <;> rfl

theorem costs_reference {below : List Char} (ordinary : predefinedEntity? below = none)
    (declared : dtd.entities.lookup below = some (.internal text)) (fresh : below ∉ name :: within)
    (spends : dtd.Spends depth (name :: within) below text size) :
    dtd.Costs depth (name :: within) (.entity below)
      (Scheme.replacement.size (Token.entity below).lexeme + size) := by
  intro openBefore position reading _
  have outside : (name :: within).contains below = false := by simpa using fresh
  rw [read_of_whole_inside rfl, ← Reading.spend_add]
  cases spent : reading.spend position (Scheme.replacement.size (Token.entity below).lexeme) with
  | error fault => rfl
  | ok after =>
    simp only [Except.bind, Reading.token, ordinary, declared, outside]
    exact spends position after (Reading.spare_of_spend spent)

/-- Tokens that cost the same each spend it once for each of them. -/
theorem tokens_of_costs {openBefore : Nat} {placed : List Placed}
    (each : ∀ one ∈ placed, dtd.Costs depth within one.token size)
    (spare : reading.account.isExceeded = false) :
    Reading.tokens dtd (replaceInContent dtd depth within) ⟨.replacement, within, openBefore⟩
      (some position) reading placed = reading.spend position (placed.length * size) := by
  induction placed generalizing reading with
  | nil =>
    rw [List.length_nil, Nat.zero_mul, Reading.spend_zero spare]
    rfl
  | cons one rest ih =>
    have first := each one List.mem_cons_self openBefore position reading spare
    have split : (one :: rest).length * size = size + rest.length * size := by
      rw [List.length_cons, Nat.add_mul, Nat.one_mul, Nat.add_comm]
    rw [split, ← Reading.spend_add, Reading.tokens]
    dsimp only [Option.getD_some]
    rw [first]
    cases spent : reading.spend position size with
    | error fault => rfl
    | ok after =>
      exact ih (fun other later => each other (List.mem_cons_of_mem one later))
        (Reading.spare_of_spend spent)

/-- An entity spends what the tokens in its text cost. -/
theorem spends_of_tokens {count : Nat}
    (cut : ∀ position, ∃ placed place,
      tokensFrom .replacement none false 0 position text = (placed, .ended place) ∧
        placed.length = count ∧
          ∀ one ∈ placed, dtd.Costs depth (name :: within) one.token size) :
    dtd.Spends (depth + 1) within name text (count * size) := by
  intro position reading spare
  obtain ⟨placed, place, read, length, each⟩ := cut position
  have told := @tokens_of_costs dtd depth size (name :: within) position reading
    reading.openNames.length placed each spare
  have here : tokensFrom ⟨.replacement, .complete⟩ none false 0 position text =
      (placed, .ended place) := read
  rw [replaceInContent, here]
  dsimp only
  rw [told, length, Reading.spend_eq]
  by_cases exceeded : (reading.account.add .indirect (count * size)).isExceeded
  · rw [if_pos exceeded]
  · rw [if_neg exceeded]
    exact if_pos rfl

/-- A token at the front of the text of an entity is the first one of it. -/
theorem tokensFrom_replacement {token : Token} {rest : List Char} (filled : token.lexeme ≠ [])
    (scanned : Token.scan .replacement (token.lexeme ++ rest) = .ok (token, rest))
    (position : Position) :
    ∃ place, tokensFrom .replacement none false 0 position (token.lexeme ++ rest) =
      let more := tokensFrom .replacement none false 0 place rest
      (⟨token, position⟩ :: more.1, more.2) := by
  obtain ⟨c, more, lexeme⟩ := List.exists_cons_of_ne_nil filled
  obtain ⟨place, skipped⟩ := @exists_place_of_skip _ (tokensFrom .replacement none false)
    (fun _ _ _ _ => by rw [tokensFrom]) (position.step c (more ++ rest)) more rest
  refine ⟨place, ?_⟩
  rw [lexeme, List.cons_append] at scanned ⊢
  rw [tokensFrom]
  simp only [scanned, lexeme, List.length_cons, Nat.add_sub_cancel, Option.map_none,
    Bool.false_eq_true, ↓reduceIte, reduceCtorEq, decide_false, Bool.and_false, skipped]

/-- An entity that is only a comment spends its own size. -/
theorem spends_comment {body : List Char} (written : IsCommentBody body) :
    dtd.Spends (depth + 1) within name (Token.comment body).lexeme
      (1 * Scheme.replacement.size (Token.comment body).lexeme) := by
  have scanned : Token.scan .replacement ((Token.comment body).lexeme ++ []) =
      .ok (.comment body, []) := by
    simp only [lexeme_comment, List.cons_append, List.append_assoc, List.nil_append, Token.scan,
      Scan.comment, scan_commentBody written]
  refine spends_of_tokens fun position => ?_
  obtain ⟨place, read⟩ := tokensFrom_replacement (by simp [lexeme_comment]) scanned position
  rw [List.append_nil] at read
  exact ⟨_, place, read, rfl, List.forall_mem_singleton.mpr (costs_comment body)⟩

/-- The text of some references to one entity. -/
def references (count : Nat) (below : List Char) : List Char :=
  (List.replicate count (Token.entity below).lexeme).flatten

theorem tokensFrom_references {below : List Char}
    (scanned : ∀ rest, Token.scan .replacement ((Token.entity below).lexeme ++ rest) =
      .ok (.entity below, rest)) (count : Nat) (position : Position) :
    ∃ placed place, tokensFrom .replacement none false 0 position (references count below) =
        (placed, .ended place) ∧
      placed.length = count ∧ ∀ one ∈ placed, one.token = .entity below := by
  induction count generalizing position with
  | zero => exact ⟨[], position, rfl, rfl, by simp⟩
  | succ count ih =>
    have filled : (Token.entity below).lexeme ≠ [] := List.cons_ne_nil _ _
    obtain ⟨next, first⟩ := tokensFrom_replacement filled (scanned (references count below)) position
    obtain ⟨placed, place, read, length, each⟩ := ih next
    refine ⟨⟨.entity below, position⟩ :: placed, place, ?_, by simp [length],
      List.forall_mem_cons.mpr ⟨rfl, each⟩⟩
    change tokensFrom .replacement none false 0 position
      ((Token.entity below).lexeme ++ references count below) = _
    rw [first, read]

/-- Every level of references multiplies what the level below spends. -/
theorem spends_references {below text' : List Char} (count : Nat)
    (scanned : ∀ rest, Token.scan .replacement ((Token.entity below).lexeme ++ rest) =
      .ok (.entity below, rest))
    (ordinary : predefinedEntity? below = none)
    (declared : dtd.entities.lookup below = some (.internal text'))
    (fresh : below ∉ name :: within)
    (spends : dtd.Spends depth (name :: within) below text' size) :
    dtd.Spends (depth + 1) within name (references count below)
      (count * (Scheme.replacement.size (Token.entity below).lexeme + size)) := by
  apply spends_of_tokens
  intro position
  obtain ⟨placed, place, read, length, each⟩ := tokensFrom_references scanned count position
  have costs := costs_reference ordinary declared fresh spends
  exact ⟨placed, place, read, length, fun one member => (each one member).symm ▸ costs⟩

/-! ## A document near the limit -/

/-- A text that starts with a document type declaration is read from there. -/
theorem readBytes_of_doctype {rest : List Char}
    (used : ∀ c ∈ '<' :: '!' :: rest, ¬ Encoding.IsUnused c) :
    readBytes true (('<' :: '!' :: rest).flatMap String.utf8EncodeChar) =
      (readDocument .utf8 { account := { direct := 0 } } .start ('<' :: '!' :: rest)).mapError
        .ofFault := by
  have detected : Encoding.detect (('<' :: '!' :: rest).flatMap String.utf8EncodeChar) =
      .encoding .utf8 0 := by
    rcases Encoding.detect_flatMap (by simp : ∀ c ∈ ('<' :: '!' :: rest).take 2, c.toNat ≠ 0) with
      ⟨_, alone⟩ | detected | ⟨_, marked⟩
    · cases alone
    · exact detected
    · cases marked
  have decoded : Encoding.utf8.decode
      ((('<' :: '!' :: rest).flatMap String.utf8EncodeChar).drop 0) =
        ('<' :: '!' :: rest, .complete) :=
    Encoding.decodeUtf8_of_used used
  have context : (⟨Encoding.utf8.scheme, .complete⟩ : Context) = .utf8 := rfl
  have undeclared : declarationAtFront? .utf8 ('<' :: '!' :: rest) = none := rfl
  unfold readBytes
  simp only [detected, decoded, context, undeclared, ↓reduceIte]

/-- The declaration of an entity. -/
def declaring (entity : List Char × List Char) : List Char :=
  "<!ENTITY ".toList ++ entity.1 ++ " \"".toList ++ entity.2 ++ "\">".toList

/-- Entities in levels: each refers some times to the one before, and the first is a comment. -/
def nestedEntities : List (List Char × List Char) :=
  [(['a'], (Token.comment (List.replicate 44 ' ')).lexeme), (['b'], references 18 ['a']),
    (['c'], references 22 ['b']), (['e'], references 17 ['c']), (['f'], references 23 ['e'])]

/-- A document that holds only the last of these entities, with 20 empty lines in front of it. -/
def nestedSource (lineEnding : List Char) : List Char :=
  "<!DOCTYPE doc [".toList ++ nestedEntities.flatMap declaring ++ "]>".toList ++
    (List.replicate 20 lineEnding).flatten ++ "<doc>&f;</doc>".toList

/-- What it declares. -/
def nestedDtd : Dtd where
  entities := nestedEntities.reverse.map fun entity => (entity.1, .internal entity.2)

theorem spends_nested : nestedDtd.Spends 6 [] ['f'] (references 23 ['e']) 8388192 := by
  have a : nestedDtd.Spends 2 [['b'], ['c'], ['e'], ['f']] ['a'] _ _ :=
    @spends_comment _ _ _ _ (List.replicate 44 ' ') ⟨by decide, by decide⟩
  have b : nestedDtd.Spends 3 [['c'], ['e'], ['f']] ['b'] _ _ :=
    spends_references 18 (fun _ => rfl) (by decide) rfl (by decide) a
  have c : nestedDtd.Spends 4 [['e'], ['f']] ['c'] _ _ :=
    spends_references 22 (fun _ => rfl) (by decide) rfl (by decide) b
  have e : nestedDtd.Spends 5 [['f']] ['e'] _ _ :=
    spends_references 17 (fun _ => rfl) (by decide) rfl (by decide) c
  have f : nestedDtd.Spends 6 [] ['f'] _ _ :=
    spends_references 23 (fun _ => rfl) (by decide) rfl (by decide) e
  have total : 23 * (Scheme.replacement.size (Token.entity ['e']).lexeme +
      17 * (Scheme.replacement.size (Token.entity ['c']).lexeme +
        22 * (Scheme.replacement.size (Token.entity ['b']).lexeme +
          18 * (Scheme.replacement.size (Token.entity ['a']).lexeme +
            1 * Scheme.replacement.size (Token.comment (List.replicate 44 ' ')).lexeme)))) =
      8388192 := by
    decide +kernel
  rwa [total] at f

/-- The reading after the start tag, if `size` bytes of the source have been counted. -/
def nestedReading (size : Nat) : Reading where
  openNames := ["doc".toList]
  events := [.start { name := String.ofList "doc".toList, position := ⟨21, 1⟩ }]
  account := { direct := size }

section Nested

variable {spent : Nat} (spends : nestedDtd.Spends 6 [] ['f'] (references 23 ['e']) spent)

include spends

/-- The entities are spent if they do not lead past the limit. -/
theorem read_nested_entity (size : Nat) :
    Reading.read nestedDtd (replaceInContent nestedDtd 6 []) ⟨.utf8, [], 0⟩ ⟨21, 6⟩
        (nestedReading (size + 5)) (.entity ['f']) =
      if Account.isExceeded ⟨size + 8, spent⟩ then .error (.amplification, ⟨21, 6⟩)
      else .ok { nestedReading (size + 8) with account := ⟨size + 8, spent⟩ } := by
  have spares : Account.Spares { direct := size + 8 } 0 := Nat.zero_le _
  have spending := spends ⟨21, 6⟩ (nestedReading (size + 8)) spares.not_exceeded
  have added : (nestedReading (size + 8)).account.add .indirect spent = ⟨size + 8, spent⟩ := by
    simp [nestedReading, Account.add]
  rw [Reading.spend_eq, added] at spending
  rw [read_of_whole_first rfl rfl]
  exact spending

omit spends in
/-- The end tag is counted too. -/
theorem read_nested_end (size : Nat) :
    Reading.read nestedDtd (replaceInContent nestedDtd 6 []) ⟨.utf8, [], 0⟩ ⟨21, 9⟩
        { nestedReading (size + 8) with account := ⟨size + 8, spent⟩ } (.endTag "doc".toList []) =
      if Account.isExceeded ⟨size + 14, spent⟩ then .error (.amplification, ⟨21, 9⟩)
      else .ok { (nestedReading size).tell ⟨21, 9⟩ (.finish (String.ofList "doc".toList)) with
        openNames := [], account := ⟨size + 14, spent⟩ } := by
  have added : Account.add ⟨size + 8, spent⟩ .direct 6 = ⟨size + 14, spent⟩ := rfl
  have charged : Account.charge ⟨size + 8, spent⟩ .direct 6 =
      if Account.isExceeded ⟨size + 14, spent⟩ then none else some ⟨size + 14, spent⟩ := by
    rw [Account.charge_eq (by decide), added]
  rw [read_of_whole rfl]
  change (match Account.charge ⟨size + 8, spent⟩ .direct 6 with | none => _ | some account => _) = _
  rw [charged]
  by_cases late : Account.isExceeded ⟨size + 14, spent⟩
  · rw [if_pos late, if_pos late]
  · rw [if_neg late, if_neg late]
    rfl

/-- The tokens are read if neither the entities nor the end tag after them lead past the limit. -/
theorem readTokens_nested (size : Nat) :
    readTokens nestedDtd .utf8 { direct := size }
      [⟨.startTag "doc".toList [] [] false, ⟨21, 1⟩⟩, ⟨.entity ['f'], ⟨21, 6⟩⟩,
        ⟨.endTag "doc".toList [], ⟨21, 9⟩⟩] =
      if Account.isExceeded ⟨size + 8, spent⟩ then .error (.amplification, ⟨21, 6⟩)
      else if Account.isExceeded ⟨size + 14, spent⟩ then .error (.amplification, ⟨21, 9⟩)
      else .ok { (nestedReading size).tell ⟨21, 9⟩ (.finish (String.ofList "doc".toList)) with
        openNames := [], account := ⟨size + 14, spent⟩ } := by
  let replace := replaceInContent nestedDtd 6 []
  have started : Reading.read nestedDtd replace ⟨.utf8, [], 0⟩ ⟨21, 1⟩
      { account := { direct := size } } (.startTag "doc".toList [] [] false) =
        .ok (nestedReading (size + 5)) := by
    rw [read_of_whole_first rfl rfl]
    rfl
  change Reading.tokens nestedDtd replace _ none { account := { direct := size } } _ = _
  rw [Reading.tokens]
  dsimp only [Option.getD_none]
  rw [started]
  dsimp only
  rw [Reading.tokens]
  dsimp only [Option.getD_none]
  rw [read_nested_entity spends]
  by_cases exceeded : Account.isExceeded ⟨size + 8, spent⟩
  · rw [if_pos exceeded, if_pos exceeded]
  · rw [if_neg exceeded, if_neg exceeded]
    dsimp only
    rw [Reading.tokens]
    dsimp only [Option.getD_none]
    rw [read_nested_end]
    by_cases late : Account.isExceeded ⟨size + 14, spent⟩
    · rw [if_pos late]
    · rw [if_neg late]
      rfl

theorem readElement_nested (size : Nat) :
    readElement .utf8 nestedDtd { direct := size } ⟨21, 1⟩ "<doc>&f;</doc>".toList =
      if Account.isExceeded ⟨size + 8, spent⟩ then .error (.amplification, ⟨21, 6⟩)
      else if Account.isExceeded ⟨size + 14, spent⟩ then .error (.amplification, ⟨21, 9⟩)
      else .ok [.start { name := "doc", position := ⟨21, 1⟩ }, .finish "doc"] := by
  have cut : tokensFrom .utf8 (some 0) false 0 ⟨21, 1⟩ "<doc>&f;</doc>".toList =
      ([⟨.startTag "doc".toList [] [] false, ⟨21, 1⟩⟩, ⟨.entity ['f'], ⟨21, 6⟩⟩,
        ⟨.endTag "doc".toList [], ⟨21, 9⟩⟩], .closed ⟨21, 15⟩ []) := by decide +kernel
  have name : String.ofList "doc".toList = "doc" := String.ofList_toList
  unfold readElement
  rw [cut]
  dsimp only [Context.utf8_scheme]
  rw [readTokens_nested spends, ← name]
  by_cases exceeded : Account.isExceeded ⟨size + 8, spent⟩
  · rw [if_pos exceeded, if_pos exceeded]
  · rw [if_neg exceeded, if_neg exceeded]
    by_cases late : Account.isExceeded ⟨size + 14, spent⟩
    · rw [if_pos late, if_pos late]
    · rw [if_neg late, if_neg late]
      rfl

end Nested

end MemberDocs.Xml
