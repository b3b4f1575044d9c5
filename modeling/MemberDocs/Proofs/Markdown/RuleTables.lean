import MemberDocs.Proofs.Markdown.Comparison

/-! # Smaller and larger tables

Nothing but the look-up of a rule asks the table, so rules for names that are not looked up do not
matter. A table that has every rule of another one, under the same names (`RuleTable.IsPartOf`),
gives the same Markdown wherever the other gives any (`KeepsText`, `keepsText_renderNode`): the
larger one can only mend what the smaller one does not know. Rules for names under which nothing is
looked up can be taken out (`renderNode_erase`); the rule for `see` is such a one in every tree.
-/

namespace MemberDocs.Markdown

/-- Every name of the table has the same rule in the larger one. -/
def RuleTable.IsPartOf (table larger : RuleTable) : Prop :=
  ∀ name rule, table.find? name = some rule → larger.find? name = some rule

theorem RuleTable.isPartOf_erase (table : RuleTable) (names : List String) :
    (table.erase names).IsPartOf table := by
  intro name rule found
  rw [RuleTable.find?_erase] at found
  split at found
  · cases found
  · exact found

/-- If the first rendering gives a text, the second one gives it too. -/
def KeepsText (first second : Except RenderError String) : Prop :=
  ∀ text, first = .ok text → second = .ok text

theorem KeepsText.bind {first second : Except RenderError String} (keeps : KeepsText first second)
    {next next' : String → Except RenderError String}
    (later : ∀ text, KeepsText (next text) (next' text)) :
    KeepsText (first.bind next) (second.bind next') := by
  intro shown rendered
  cases first with
  | error error => cases rendered
  | ok text =>
    rw [keeps text rfl]
    exact later text shown rendered

theorem KeepsText.map {first second : Except RenderError String} (keeps : KeepsText first second)
    (change : String → String) : KeepsText (first.map change) (second.map change) := by
  intro shown rendered
  cases first with
  | error error => cases rendered
  | ok text =>
    rw [keeps text rfl]
    exact rendered

/-- The second rendering mends the first one: it gives the text of the first one if there is one,
and reports an unknown tag only if the first one reports one. -/
structure Mends (first second : Except RenderError String) : Prop where
  text : KeepsText first second
  unknown : ∀ unknown, second = .error (.unknownTag unknown) →
    ∃ other, first = .error (.unknownTag other)

/-- A rendering that can only fail by an unknown tag is mended by one that keeps its text. -/
theorem KeepsText.mends {faults : List Nat → Visit → Prop}
    {first second : Except RenderError String} (keeps : KeepsText first second)
    (reports : ReportsFirst faults first) : Mends first second where
  text := keeps
  unknown := by
    intro unknown failed
    cases first with
    | ok text =>
      rw [keeps text rfl] at failed
      cases failed
    | error error =>
      obtain ⟨path, visit, -, rfl, -⟩ := reports
      exact ⟨_, rfl⟩

theorem keptByJoining_keepsText : KeptByJoining KeepsText where
  empty := fun _ => id
  join := by
    intro first first' second second' front back
    apply front.bind
    intro text
    exact back.map (text ++ ·)

variable {table larger : RuleTable}

theorem keepsText_renderNode (part : table.IsPartOf larger) (context : Option String)
    (previous : Option Tag) (node : Node) :
    KeepsText (renderNode table context previous node)
      (renderNode larger context previous node) := by
  induction node using Node.visitInduction generalizing context previous with
  | text content position =>
    rw [renderNode_text, renderNode_text]
    exact fun _ => id
  | element tag children ih =>
    cases found : table.find? (effectiveName tag previous) with
    | none =>
      rw [renderNode_of_unknown children found]
      exact nofun
    | some rule =>
      rw [renderNode_of_rule children found, renderNode_of_rule children (part _ _ found)]
      apply KeepsText.bind
      · apply keptByJoining_keepsText.renderNodes
        intro i node place
        exact ih rule.extract node (List.mem_of_getElem? place) _ _
      · exact fun _ _ => id

/-- Rules for names that no reached element is looked up under can be taken out. -/
theorem renderNode_erase {names : List String} (standard : table.FromStandard) {node : Node}
    {previous : Option Tag}
    (unused : ∀ path visit, Reached table previous node path visit → visit.name ∉ names)
    (context : Option String) :
    renderNode (table.erase names) context previous node =
      renderNode table context previous node := by
  induction node using Node.visitInduction generalizing context previous with
  | text content position => rw [renderNode_text, renderNode_text]
  | element tag children ih =>
    have same : (table.erase names).find? (effectiveName tag previous) =
        table.find? (effectiveName tag previous) := by
      have own : effectiveName tag previous ∉ names := unused _ _ (.here previous tag children)
      rw [RuleTable.find?_erase, if_neg (by simpa using own)]
    cases found : table.find? (effectiveName tag previous) with
    | none =>
      rw [renderNode_of_unknown children found, renderNode_of_unknown children (same.trans found)]
    | some rule =>
      rw [renderNode_of_rule children found, renderNode_of_rule children (same.trans found)]
      congr 1
      apply keptByJoining_eq.renderNodes
      intro i node place
      apply ih rule.extract node (List.mem_of_getElem? place)
      intro path visit reached
      obtain ⟨longer, above⟩ := Reached.of_opened standard found place reached
      exact unused longer visit above

/-- **Larger tables.** Let a table of standard rules be part of a larger table. What is rendered
under it is rendered under the larger one to the same Markdown, and where the larger one reports an
unknown tag it reports one too. Rules for names under which no reached element is looked up make no
difference when they are taken out. Under the name `see` nothing is ever looked up, so its rule
makes none in any tree. -/
theorem larger_tables_mend_renderings (standard : table.FromStandard) (context : Option String)
    (previous : Option Tag) (node : Node) :
    (∀ larger, table.IsPartOf larger →
      Mends (renderNode table context previous node) (renderNode larger context previous node) ∧
      Mends (renderMarkdown table context node) (renderMarkdown larger context node)) ∧
    (∀ names, (∀ path visit, Reached table previous node path visit → visit.name ∉ names) →
      renderNode (table.erase names) context previous node =
        renderNode table context previous node) ∧
    (∀ tag before, effectiveName tag before ≠ "see") ∧
    renderNode (table.erase ["see"]) context previous node =
      renderNode table context previous node ∧
    renderMarkdown (table.erase ["see"]) context node = renderMarkdown table context node := by
  have withoutSee (before : Option Tag) : renderNode (table.erase ["see"]) context before node =
      renderNode table context before node := by
    apply renderNode_erase standard
    intro path visit _ listed
    exact effectiveName_ne_see visit.tag visit.previous (List.mem_singleton.mp listed)
  have reports (before : Option Tag) := reportsFirst_renderNode standard node context before
  refine ⟨?_, ?_, effectiveName_ne_see, withoutSee previous, ?_⟩
  · intro larger part
    have keeps (before : Option Tag) := keepsText_renderNode part context before node
    have finished := (reports none).map Text.squeeze
    refine ⟨(keeps previous).mends (reports previous), ?_⟩
    exact ((keeps none).map Text.squeeze).mends finished
  · intro names unused
    exact renderNode_erase standard unused context
  · rw [renderMarkdown, renderMarkdown, withoutSee none]

/-- A table without code renders a page as the standard one does, with or without its rules for
lists, and reports a page whose tag neither of them knows. -/
theorem table_without_code_is_mended :
    let table := standardRules.erase ["code"]
    let page (name : String) : Node :=
      .element ⟨"para", [], ⟨1, 1⟩⟩ [.element ⟨name, [], ⟨1, 7⟩⟩ [.text "x" ⟨1, 10⟩]]
    (table.FromStandard ∧ table.IsPartOf standardRules) ∧
      renderMarkdown standardRules none (page "c") = .ok " `x` \n\n" ∧
      (∃ other, renderMarkdown table none (page "bogus") = .error (.unknownTag other)) ∧
      (∀ path visit, Reached table none (page "c") path visit → visit.name ∉ ["list", "item"]) ∧
      renderNode (table.erase ["list", "item"]) none none (page "c") = .ok " `x` \n\n" := by
  intro table page
  have standard : table.FromStandard := RuleTable.fromStandard_standardRules.erase ["code"]
  have part : table.IsPartOf standardRules := RuleTable.isPartOf_erase _ _
  have shown : renderMarkdown table none (page "c") = .ok " `x` \n\n" := by decide +kernel
  have unknown : renderMarkdown standardRules none (page "bogus") =
      .error (.unknownTag ⟨"bogus", ⟨1, 7⟩⟩) := by decide +kernel
  obtain ⟨mends, without, -⟩ := larger_tables_mend_renderings standard none none (page "c")
  obtain ⟨mendsBogus, -⟩ := larger_tables_mend_renderings standard none none (page "bogus")
  have unused : ∀ path visit, Reached table none (page "c") path visit →
      visit.name ∉ ["list", "item"] := by
    intro path visit reached listed
    have each : ∀ name ∈ ["list", "item"], name ∉ derivedNames := by decide
    have own : visit.tag.name = visit.name := name_eq_of_effectiveName rfl (each _ listed)
    rw [← own] at listed
    have inside := reached.holds
    simp only [page, Node.holds_element_iff, Node.not_holds_text, List.mem_singleton,
      exists_eq_left, or_false] at inside
    rcases inside with head | head <;> simp [head] at listed
  refine ⟨⟨standard, part⟩, (mends _ part).2.text _ shown, (mendsBogus _ part).2.unknown _ unknown,
    unused, (without _ unused).trans ?_⟩
  decide +kernel

end MemberDocs.Markdown
