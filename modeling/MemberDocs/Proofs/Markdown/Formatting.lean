import MemberDocs.Proofs.Markdown.Step
import Mathlib.Data.List.Dedup
import Mathlib.Data.List.Perm.Subperm

/-! # Formatting

A rule fills its template by reading the source of it once, from left to right: a number between braces
is replaced by the value with that number, and what is put in is not read (`Substituted`). This
determines the result (`Substituted.unique`), whatever braces the values hold. A standard rule has a
value for each of its slots, under any way of rendering the parts of an element, so that only the
rendering of these can fail (`standard_rules_fill_in_one_pass`).
-/

namespace MemberDocs.Markdown

/-! ## One pass over a template -/

/-- The source of a template with its slots replaced by the values: characters other than braces are
copied, and a number between braces is replaced. What is put in is left as it is. -/
inductive Substituted (values : List String) : List Char → List Char → Prop where
  | done : Substituted values [] []
  | copied {c : Char} {source result : List Char} (plain : c ∉ ['\x7b', '\x7d'])
      (later : Substituted values source result) : Substituted values (c :: source) (c :: result)
  | replaced {index : Nat} {value : String} {source result : List Char}
      (given : values[index]? = some value) (later : Substituted values source result) :
      Substituted values ('\x7b' :: ((toString index).toList ++ '\x7d' :: source))
        (value.toList ++ result)

namespace Substituted

variable {values : List String} {source result other : List Char}

theorem brace_not_mem_number (index : Nat) : '\x7d' ∉ (toString index).toList := by
  intro among
  rw [Nat.toString_eq_ofList_toDigits, String.toList_ofList] at among
  have digit := Nat.isDigit_of_mem_toDigits (by decide) (by decide) among
  revert digit
  decide

/-- A mark ends what is before it, if it does not stand there. -/
theorem append_mark_inj {mark : Char} {first second rest more : List Char} (before : mark ∉ first)
    (beforeAgain : mark ∉ second) (same : first ++ mark :: rest = second ++ mark :: more) :
    first = second ∧ rest = more := by
  induction first generalizing second with
  | nil =>
    cases second with
    | nil => exact ⟨rfl, (List.cons.inj same).2⟩
    | cons c others =>
      obtain ⟨rfl, -⟩ := List.cons.inj same
      exact absurd List.mem_cons_self beforeAgain
  | cons c others ih =>
    rw [List.mem_cons, not_or] at before
    cases second with
    | nil => exact absurd (List.cons.inj same).1.symm before.1
    | cons d later =>
      rw [List.mem_cons, not_or] at beforeAgain
      obtain ⟨rfl, remaining⟩ := List.cons.inj same
      obtain ⟨rfl, ends⟩ := ih before.2 beforeAgain.2 remaining
      exact ⟨rfl, ends⟩

/-- A slot tells its number and where it ends. -/
theorem slot_inj {first second : Nat} {rest more : List Char}
    (same : (toString first).toList ++ '\x7d' :: rest =
      (toString second).toList ++ '\x7d' :: more) : first = second ∧ rest = more := by
  obtain ⟨numbers, ends⟩ :=
    append_mark_inj (brace_not_mem_number first) (brace_not_mem_number second) same
  have counted := congrArg (Nat.ofDigitChars 10 · 0) numbers
  exact ⟨by simpa [Nat.toString_eq_ofList_toDigits] using counted, ends⟩

theorem unique (first : Substituted values source result)
    (second : Substituted values source other) : result = other := by
  induction first generalizing other with
  | done =>
    cases second
    rfl
  | copied plain later ih =>
    cases second with
    | copied _ again => rw [ih again]
    | replaced => simp at plain
  | @replaced index value rest result given later ih =>
    generalize same : '\x7b' :: ((toString index).toList ++ '\x7d' :: rest) = whole at second
    cases second with
    | done => cases same
    | copied plain =>
      obtain ⟨rfl, -⟩ := List.cons.inj same
      simp at plain
    | replaced givenAgain again =>
      obtain ⟨rfl, rfl⟩ := slot_inj (List.cons.inj same).2
      obtain rfl := Option.some.inj (given.symm.trans givenAgain)
      rw [ih again]

theorem append_copied {text : List Char} (plain : ∀ c ∈ text, c ∉ ['\x7b', '\x7d'])
    (later : Substituted values source result) :
    Substituted values (text ++ source) (text ++ result) := by
  induction text with
  | nil => exact later
  | cons c rest ih =>
    rw [List.forall_mem_cons] at plain
    exact .copied plain.1 (ih plain.2)

end Substituted

/-- The fixed text of a template that holds no braces. -/
def Piece.isPlain : Piece → Bool
  | .literal text => text.toList.all (· ∉ ['\x7b', '\x7d'])
  | .slot _ => true

theorem standardRules_plain : ∀ entry ∈ standardRules, ∀ piece ∈ entry.2.template, piece.isPlain := by
  decide

namespace Template

variable {template : Template} {values : List String}

/-- To fill a template is to replace the slots in its source. -/
theorem substituted_of_fill (plain : ∀ piece ∈ template, piece.isPlain) {text : String}
    (filled : template.fill values = .ok text) :
    Substituted values template.source.toList text.toList := by
  induction template generalizing text with
  | nil =>
    obtain rfl := Except.ok.inj filled
    exact .done
  | cons piece rest ih =>
    rw [List.forall_mem_cons] at plain
    cases piece with
    | literal before =>
      obtain ⟨after, later, rfl⟩ := map_eq_ok_iff.mp filled
      have copied : ∀ c ∈ before.toList, c ∉ ['\x7b', '\x7d'] := by
        simpa [Piece.isPlain] using plain.1
      rw [String.toList_append]
      simpa [source] using (ih plain.2 later).append_copied copied
    | slot index =>
      rw [fill] at filled
      cases given : values[index]? with
      | none => simp [given] at filled
      | some value =>
        rw [given] at filled
        obtain ⟨after, later, rfl⟩ := map_eq_ok_iff.mp filled
        rw [String.toList_append]
        simpa [source] using Substituted.replaced given (ih plain.2 later)

end Template

/-! ## Rules under any way of rendering parts -/

section

variable {ε : Type}

/-- The parts below an element that an extract has rendered, if it has any rendered. -/
def Extract.handedOn? (extract : Extract) (children : List Node) : Option (List Node) :=
  match extract with
  | .body | .attributeAndBody _ | .member | .anchor => some children
  | .document => (Node.child? "members" children).map fun members =>
      members.children.filter (Node.isNamed "member")
  | .reference | .attributeAlone _ | .keyword | .code | .nothing => none

/-- The values of an extract, the parts being rendered by `render`. -/
def Extract.valuesBy (extract : Extract) (render : List Node → Option String → Except ε String)
    (tag : Tag) (children : List Node) (outer : Option String) : Except ε (List String) :=
  match extract.handedOn? children with
  | none => .ok (extract.values tag children outer "")
  | some parts =>
    (render parts (extract.context children outer)).map (extract.values tag children outer)

/-- What can go wrong when a rule is applied. -/
inductive RuleFault (ε : Type) where
  /-- The parts of the element cannot be rendered. -/
  | parts (error : ε)
  /-- The template has a slot that its extract has no value for. -/
  | emptySlot (index : Nat)
deriving DecidableEq

def RuleFault.error : RuleFault RenderError → RenderError
  | parts error => error
  | emptySlot index => .emptySlot index

/-- The Markdown of an element under a rule, the parts being rendered by `render`. -/
def TagRule.applyBy (rule : TagRule) (render : List Node → Option String → Except ε String)
    (tag : Tag) (children : List Node) (outer : Option String) : Except (RuleFault ε) String :=
  match rule.extract.valuesBy render tag children outer with
  | .error error => .error (.parts error)
  | .ok values => (rule.template.fill values).mapError .emptySlot

theorem Extract.visits_eq_handedOn? (extract : Extract) (children : List Node) :
    extract.visits children = (extract.handedOn? children).getD [] := by
  cases extract with
  | document =>
    rw [visits, documentMembers, handedOn?]
    cases Node.child? "members" children <;> rfl
  | _ => rfl

/-- An element is rendered by its rule, with its parts rendered as neighbours. -/
theorem renderNode_eq_applyBy {table : RuleTable} {context : Option String} {previous : Option Tag}
    {tag : Tag} (children : List Node) {rule : TagRule}
    (found : table.find? (effectiveName tag previous) = some rule) :
    renderNode table context previous (.element tag children) =
      (rule.applyBy (fun parts context => renderNodes table context parts) tag children
        context).mapError RuleFault.error := by
  have slots (filled : Except Nat String) :
      filled.mapError .emptySlot = (filled.mapError .emptySlot).mapError RuleFault.error := by
    cases filled <;> rfl
  rw [renderNode_of_rule children found, rule.extract.visits_eq_handedOn?, TagRule.applyBy,
    Extract.valuesBy]
  cases rule.extract.handedOn? children with
  | none =>
    rw [Option.getD_none, renderNodes, renderSiblings_nil]
    exact slots _
  | some parts =>
    dsimp only [Option.getD_some]
    cases renderNodes table (rule.extract.context children context) parts with
    | error error => rfl
    | ok rendered => exact slots _

/-- An extract gives as many values under any way of rendering parts. -/
theorem Extract.length_valuesBy {extract : Extract}
    {render : List Node → Option String → Except ε String} {tag : Tag} {children : List Node}
    {outer : Option String} {values : List String}
    (taken : extract.valuesBy render tag children outer = .ok values) :
    values.length = extract.arity := by
  unfold valuesBy at taken
  split at taken
  next =>
    obtain rfl := Except.ok.inj taken
    exact extract.length_values tag children outer ""
  next =>
    obtain ⟨rendered, -, rfl⟩ := map_eq_ok_iff.mp taken
    exact extract.length_values tag children outer rendered

theorem Extract.valuesBy_eq_error_iff {extract : Extract}
    {render : List Node → Option String → Except ε String} {tag : Tag} {children : List Node}
    {outer : Option String} {error : ε} :
    extract.valuesBy render tag children outer = .error error ↔
      ∃ parts, extract.handedOn? children = some parts ∧
        render parts (extract.context children outer) = .error error := by
  unfold valuesBy
  cases extract.handedOn? children with
  | none => simp
  | some parts =>
    cases rendered : render parts (extract.context children outer) <;>
      simp [rendered, Except.map]

/-! ## Standard rules -/

variable {name : String} {rule : TagRule} {tag : Tag} {children : List Node}
  {outer : Option String} {render : List Node → Option String → Except ε String}

/-- The values of a standard rule fill its template. -/
theorem TagRule.exists_fill_of_standard (standard : standardRules.find? name = some rule)
    {values : List String} (taken : rule.extract.valuesBy render tag children outer = .ok values) :
    ∃ text, rule.template.fill values = .ok text := by
  apply Template.exists_fill
  intro index among
  rw [Extract.length_valuesBy taken]
  exact standardRules_slots _ (mem_of_lookup standard) index
    (List.mem_filterMap.mpr ⟨.slot index, among, rfl⟩)

/-- A standard rule is applied as soon as its extract has its values. -/
theorem TagRule.exists_applyBy_of_standard (standard : standardRules.find? name = some rule)
    {values : List String} (taken : rule.extract.valuesBy render tag children outer = .ok values) :
    ∃ text, rule.applyBy render tag children outer = .ok text ∧
      Substituted values rule.template.source.toList text.toList := by
  obtain ⟨text, filled⟩ := TagRule.exists_fill_of_standard standard taken
  refine ⟨text, ?_, ?_⟩
  · rw [applyBy, taken]
    dsimp only
    rw [filled]
    rfl
  · exact Template.substituted_of_fill (standardRules_plain _ (mem_of_lookup standard)) filled

/-- A standard rule fails with the values of its extract. -/
theorem TagRule.applyBy_eq_error_iff (standard : standardRules.find? name = some rule)
    {fault : RuleFault ε} :
    rule.applyBy render tag children outer = .error fault ↔
      ∃ error, rule.extract.valuesBy render tag children outer = .error error ∧
        fault = .parts error := by
  cases taken : rule.extract.valuesBy render tag children outer with
  | error error => simp [applyBy, taken, eq_comm]
  | ok values =>
    obtain ⟨text, applied, -⟩ := TagRule.exists_applyBy_of_standard standard taken
    simp [applied]

/-- A list of numbers below a bound has no more different ones. -/
theorem length_dedup_le {numbers : List Nat} {bound : Nat} (below : ∀ n ∈ numbers, n < bound) :
    numbers.dedup.length ≤ bound := by
  have among : numbers.dedup ⊆ List.range bound := by
    intro n member
    exact List.mem_range.mpr (below n (List.mem_dedup.mp member))
  simpa using (List.Nodup.subperm (List.nodup_dedup numbers) among).length_le

/-- **Formatting.** A standard rule can always be applied, however the parts of an element are
rendered: its extract gives a value for each slot of its template, so that the rule fails exactly if it
has parts rendered and these fail, and with their error. Otherwise the result is the source of the
template with the slots replaced by the values in one pass. Elements are rendered in this way, with
their parts rendered as neighbours. -/
theorem standard_rules_fill_in_one_pass (standard : standardRules.find? name = some rule)
    (render : List Node → Option String → Except ε String) (tag : Tag) (children : List Node)
    (outer : Option String) :
    (∀ values, rule.extract.valuesBy render tag children outer = .ok values →
      rule.template.slots.dedup.length ≤ values.length ∧
      (∀ index ∈ rule.template.slots, index < values.length) ∧
      ∃ text, rule.applyBy render tag children outer = .ok text ∧
        ∀ result, Substituted values rule.template.source.toList result ↔ result = text.toList) ∧
    (∀ fault, rule.applyBy render tag children outer = .error fault ↔
      ∃ parts error, rule.extract.handedOn? children = some parts ∧
        render parts (rule.extract.context children outer) = .error error ∧
        fault = .parts error) ∧
    ∀ table context previous, RuleTable.find? table (effectiveName tag previous) = some rule →
      renderNode table context previous (.element tag children) =
        (rule.applyBy (fun parts context => renderNodes table context parts) tag children
          context).mapError RuleFault.error := by
  refine ⟨?_, ?_, fun table context previous => renderNode_eq_applyBy children⟩
  · intro values taken
    have enough : ∀ index ∈ rule.template.slots, index < values.length := by
      rw [Extract.length_valuesBy taken]
      exact standardRules_slots _ (mem_of_lookup standard)
    obtain ⟨text, applied, substituted⟩ := TagRule.exists_applyBy_of_standard standard taken
    refine ⟨length_dedup_le enough, enough, text, applied, ?_⟩
    intro result
    constructor
    · intro other
      exact other.unique substituted
    · rintro rfl
      exact substituted
  · intro fault
    rw [TagRule.applyBy_eq_error_iff standard]
    simp only [Extract.valuesBy_eq_error_iff]
    constructor
    · rintro ⟨error, ⟨parts, handed, failed⟩, same⟩
      exact ⟨parts, error, handed, failed, same⟩
    · rintro ⟨parts, error, handed, failed, same⟩
      exact ⟨error, ⟨parts, handed, failed⟩, same⟩

end

/-- Values that look like slots stay as they are. -/
theorem braces_in_values_are_shown :
    let rule : TagRule := ⟨[.literal "[[", .slot 0, .literal "|", .slot 0, .literal "]]: ", .slot 1,
      .literal "\n\n"], .attributeAndBody "cref"⟩
    let tag : Tag := ⟨"exception", [("cref", "\x7b1\x7d")], {}⟩
    let render (_ : List Node) (_ : Option String) : Except Unit String := .ok "\x7b0\x7d"
    let text := "[[\x7b1\x7d|\x7b1\x7d]]: \x7b0\x7d\n\n"
    standardRules.find? "exception" = some rule ∧
      rule.template.source = "[[\x7b0\x7d|\x7b0\x7d]]: \x7b1\x7d\n\n" ∧
      rule.extract.valuesBy render tag [] none = .ok ["\x7b1\x7d", "\x7b0\x7d"] ∧
      rule.applyBy render tag [] none = .ok text ∧
      ∀ result, Substituted ["\x7b1\x7d", "\x7b0\x7d"] rule.template.source.toList result ↔
        result = text.toList := by
  intro rule tag render text
  have standard : standardRules.find? "exception" = some rule := rfl
  have taken : rule.extract.valuesBy render tag [] none = .ok ["\x7b1\x7d", "\x7b0\x7d"] := rfl
  obtain ⟨filled, -, -⟩ := standard_rules_fill_in_one_pass standard render tag [] none
  obtain ⟨-, -, shown, applied, one⟩ := filled _ taken
  have evaluated : rule.applyBy render tag [] none = .ok text := by
    change Except.ok _ = Except.ok text
    exact congrArg Except.ok (by decide)
  obtain rfl := Except.ok.inj (applied.symm.trans evaluated)
  exact ⟨standard, by decide, taken, applied, one⟩

end MemberDocs.Markdown
