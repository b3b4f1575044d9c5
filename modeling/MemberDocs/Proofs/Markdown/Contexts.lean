import MemberDocs.Proofs.Markdown.Frames

/-! # The assembly context

The assembly name in force is handed down to all parts and read in one place, the label of a member;
a document replaces it for its members. So what a tree fails with does not depend on it
(`failAlike_renderNode`), nor does the Markdown if each label that is shown is the same or stands
below a document (`renderNode_congr_context`). In the midst of a tree a part is rendered in the
context of the tree, and the members of a document under its own assembly name
(`renderNode_of_document`), while what stands around them is not touched by it
(`Reached.exists_frame`). `context_reaches_labels_only` puts this together.
-/

namespace MemberDocs.Markdown

variable {table : RuleTable} {context : Option String} {previous : Option Tag} {tag : Tag}
  {children : List Node} {rule : TagRule}

/-! ## Faults -/

/-- Two renderings fail alike: with the same error, or not at all. -/
def FailAlike (first second : Except RenderError String) : Prop :=
  ∀ error, first = .error error ↔ second = .error error

theorem failAlike_of_ok (text text' : String) : FailAlike (.ok text) (.ok text') := by
  intro error
  exact ⟨nofun, nofun⟩

theorem FailAlike.bind {first second : Except RenderError String} (alike : FailAlike first second)
    {next next' : String → Except RenderError String}
    (later : ∀ text text', FailAlike (next text) (next' text')) :
    FailAlike (first.bind next) (second.bind next') := by
  cases first with
  | error error =>
    obtain rfl : second = .error error := (alike error).mp rfl
    exact fun _ => Iff.rfl
  | ok text =>
    cases second with
    | error error => cases (alike error).mpr rfl
    | ok text' => exact later text text'

theorem keptByJoining_failAlike : KeptByJoining FailAlike where
  empty := failAlike_of_ok "" ""
  join := by
    intro first first' second second' front back
    apply front.bind
    intro text text'
    exact back.bind fun after after' => failAlike_of_ok (text ++ after) (text' ++ after')

/-- Whether a part can be rendered, and the error if it cannot, does not depend on the context. -/
theorem failAlike_renderNode (standard : table.FromStandard) (first second : Option String)
    (previous : Option Tag) (node : Node) :
    FailAlike (renderNode table first previous node) (renderNode table second previous node) := by
  induction node using Node.visitInduction generalizing first second previous with
  | text content position =>
    rw [renderNode_text, renderNode_text]
    exact fun _ => Iff.rfl
  | element tag children ih =>
    cases found : table.find? (effectiveName tag previous) with
    | none =>
      rw [renderNode_of_unknown children found, renderNode_of_unknown children found]
      exact fun _ => Iff.rfl
    | some rule =>
      obtain ⟨name, original⟩ := standard _ _ found
      rw [renderNode_of_rule children found, renderNode_of_rule children found]
      apply FailAlike.bind
      · apply keptByJoining_failAlike.renderNodes
        intro i node place
        exact ih rule.extract node (List.mem_of_getElem? place) _ _ _
      · intro text text'
        obtain ⟨shown, here⟩ := rule.exists_apply_of_standard original tag children first text
        obtain ⟨shown', there⟩ := rule.exists_apply_of_standard original tag children second text'
        rw [here, there]
        exact failAlike_of_ok shown shown'

/-! ## Labels -/

/-- The rule of the element is that of a document. -/
def Visit.IsDocument (table : RuleTable) (visit : Visit) : Prop :=
  table.find? visit.name = standardRules.find? "doc"

/-- The rule of the element is that of a kind of members. -/
def Visit.IsLabelled (table : RuleTable) (visit : Visit) : Prop :=
  ∃ kind : MemberKind, table.find? visit.name = standardRules.find? kind.ruleName

theorem Visit.IsLabelled.extract_eq {visit : Visit} (labelled : visit.IsLabelled table)
    (found : table.find? visit.name = some rule) : rule.extract = .member := by
  obtain ⟨kind, same⟩ := labelled
  have own : (standardRules.find? kind.ruleName).map TagRule.extract = some .member := by
    cases kind <;> rfl
  rw [← same, found] at own
  exact Option.some.inj own

/-- Every labelled element that is reached stands below a document that is reached, or has the same
label in both contexts. -/
def LabelsAgree (table : RuleTable) (first second : Option String) (previous : Option Tag)
    (node : Node) : Prop :=
  ∀ path visit, Reached table previous node path visit → visit.IsLabelled table →
    LeadsThrough table "doc" previous node path ∨
      memberLabel (visit.tag.attributeOrEmpty "name") first =
        memberLabel (visit.tag.attributeOrEmpty "name") second

theorem reached_child_iff (found : table.find? (effectiveName tag previous) = some rule)
    (rendersBody : rule.RendersBody) {i : Nat} {part : Node} (place : children[i]? = some part)
    {path : List Nat} {visit : Visit} :
    Reached table previous (.element tag children) (i :: path) visit ↔
      Reached table (Node.lastTag? (children.take i)) part path visit := by
  constructor
  · intro reached
    cases reached with
    | child _ _ there below =>
      obtain rfl : _ = part := Option.some.inj (there.symm.trans place)
      exact below
    | member same rendersMembers =>
      obtain rfl : _ = rule := Option.some.inj (same.symm.trans found)
      exact absurd rendersMembers rendersBody.not_rendersMembers
  · exact Reached.child found rendersBody place

/-- An element that opens its children is no document, so the document on a way from it is below the
child that the way leads to. -/
theorem LeadsThrough.of_child
    (found : table.find? (effectiveName tag previous) = some rule) (rendersBody : rule.RendersBody)
    {i : Nat} {part : Node} (place : children[i]? = some part) {path : List Nat}
    (through : LeadsThrough table "doc" previous (.element tag children) (i :: path)) :
    LeadsThrough table "doc" (Node.lastTag? (children.take i)) part path := by
  obtain ⟨front, document, start, other, above, isDocument⟩ := through
  cases front with
  | nil =>
    cases above
    exact absurd (isDocument.symm.trans found) rendersBody.not_rendersMembers
  | cons k front =>
    obtain ⟨rfl, inner⟩ := List.cons_prefix_cons.mp start
    exact ⟨front, document, inner, fun same => other (congrArg (k :: ·) same),
      (reached_child_iff found rendersBody place).mp above, isDocument⟩

theorem LabelsAgree.of_child {first second : Option String}
    (agree : LabelsAgree table first second previous (.element tag children))
    (found : table.find? (effectiveName tag previous) = some rule) (rendersBody : rule.RendersBody)
    {i : Nat} {part : Node} (place : children[i]? = some part) :
    LabelsAgree table first second (Node.lastTag? (children.take i)) part := by
  intro path visit reached labelled
  have above := (reached_child_iff found rendersBody place).mpr reached
  rcases agree (i :: path) visit above labelled with through | same
  · exact Or.inl (through.of_child found rendersBody place)
  · exact Or.inr same

/-- The rules that show a label are those of the kinds of members. -/
theorem standardRules_labelled : ∀ entry ∈ standardRules, entry.2.extract = .member →
    ∃ kind ∈ [MemberKind.field, .property, .type, .event, .method],
      entry.1 = kind.ruleName := by
  decide

/-- An element is shown alike in both contexts if it is shown without a label or its label is the
same. -/
theorem LabelsAgree.apply_eq {first second : Option String}
    (agree : LabelsAgree table first second previous (.element tag children))
    (found : table.find? (effectiveName tag previous) = some rule) {name : String}
    (original : standardRules.find? name = some rule) :
    rule.apply tag children first = rule.apply tag children second := by
  funext rendered
  rw [TagRule.apply, TagRule.apply]
  cases extract : rule.extract with
  | member =>
    obtain ⟨kind, -, rfl⟩ := standardRules_labelled _ (mem_of_lookup original) extract
    have labelled : Visit.IsLabelled table ⟨tag, previous⟩ := ⟨kind, found.trans original.symm⟩
    rcases agree [] _ (.here previous tag children) labelled with through | same
    · obtain ⟨front, document, start, other, -⟩ := through
      exact absurd (List.prefix_nil.mp start) other
    · rw [Extract.values, Extract.values, same]
  | _ => rfl

/-- The context reaches nothing but labels that are not below a document. -/
theorem renderNode_congr_context (standard : table.FromStandard) {first second : Option String}
    {previous : Option Tag} {node : Node} (agree : LabelsAgree table first second previous node) :
    renderNode table first previous node = renderNode table second previous node := by
  induction node using Node.visitInduction generalizing previous with
  | text content position => rw [renderNode_text, renderNode_text]
  | element tag children ih =>
    cases found : table.find? (effectiveName tag previous) with
    | none => rw [renderNode_of_unknown children found, renderNode_of_unknown children found]
    | some rule =>
      obtain ⟨name, original⟩ := standard _ _ found
      rw [renderNode_of_rule children found, renderNode_of_rule children found,
        agree.apply_eq found original]
      rcases TagRule.visits_cases original children with
        ⟨rendersBody, visited⟩ | ⟨rendersMembers, visited⟩ | visited
      · rw [visited, Extract.context_of_opensBody rendersBody.opensBody,
          Extract.context_of_opensBody rendersBody.opensBody]
        congr 1
        apply keptByJoining_eq.renderNodes
        intro i part place
        have opened : part ∈ rule.extract.visits children :=
          visited.symm ▸ List.mem_of_getElem? place
        exact ih rule.extract part opened (agree.of_child found rendersBody place)
      · -- The members are rendered in the context of the document, whatever the outer one.
        rw [rendersMembers.extract_eq]
        rfl
      · rw [visited, renderNodes_nil, renderNodes_nil]

/-! ## Documents -/

/-- A document is its heading and its members, which are rendered under its own assembly name. -/
theorem renderNode_of_document
    (isDocument : table.find? (effectiveName tag previous) = standardRules.find? "doc")
    (children : List Node) (context : Option String) :
    renderNode table context previous (.element tag children) =
      (renderNodes table (some (assemblyName children)) (documentMembers children)).map
        fun members => "# " ++ assemblyName children ++ " #\n\n" ++ members ++ "\n\n" := by
  have found : table.find? (effectiveName tag previous) = some
      ⟨[.literal "# ", .slot 0, .literal " #\n\n", .slot 1, .literal "\n\n"], .document⟩ :=
    isDocument
  exact renderNode_of_section children found fun _ => rfl

/-- **The assembly context.** Under a table of standard rules a tree is rendered in any two contexts
with the same error or without one. The Markdown is the same if every labelled element that is
reached stands below a document that is reached, or else has the same label; without a context it is
that of an empty one. Every reached element stands in a frame that what it holds has no part in, and
that shows it unless the way to it leads through a `paramref`: it is rendered there in the context
of the tree if no document is above it, and a document, wherever it stands, is rendered with its
members under its own assembly name. -/
theorem context_reaches_labels_only (standard : table.FromStandard) (previous : Option Tag)
    (node : Node) :
    (∀ first second error, renderNode table first previous node = .error error ↔
      renderNode table second previous node = .error error) ∧
    (∀ first second, LabelsAgree table first second previous node →
      renderNode table first previous node = renderNode table second previous node) ∧
    renderNode table none previous node = renderNode table (some "") previous node ∧
    ∀ path visit, Reached table previous node path visit →
      (∃ own, node.replaceAt path (.element visit.tag own) = node) ∧
      ∀ context, ∃ frame : Frame,
        (¬ LeadsThrough table "paramref" previous node path → frame.shows = true) ∧
        (¬ LeadsThrough table "doc" previous node path → ∀ children,
          renderNode table context previous (node.replaceAt path (.element visit.tag children)) =
            frame.fill (renderNode table context visit.previous (.element visit.tag children))) ∧
        (visit.IsDocument table → ∀ children,
          renderNode table context previous (node.replaceAt path (.element visit.tag children)) =
            frame.fill ((renderNodes table (some (assemblyName children))
              (documentMembers children)).map fun members =>
                "# " ++ assemblyName children ++ " #\n\n" ++ members ++ "\n\n")) := by
  refine ⟨?_, ?_, ?_, ?_⟩
  · intro first second
    exact failAlike_renderNode standard first second previous node
  · intro first second agree
    exact renderNode_congr_context standard agree
  · apply renderNode_congr_context standard
    intro path visit _ _
    exact Or.inr rfl
  · intro path visit reached
    refine ⟨reached.exists_own, ?_⟩
    intro context
    obtain ⟨frame, inner, shows, same, filled⟩ := reached.exists_frame context
    refine ⟨frame, shows, ?_, ?_⟩
    · intro apart children
      rw [filled _ rfl, same apart]
    · intro isDocument children
      rw [filled _ rfl, renderNode_of_document isDocument]

/-- A document in a paragraph leaves out its own assembly name from the label of its member, and the
context from outside is not seen. -/
theorem nested_document_has_its_own_context :
    let document : Tag := ⟨"doc", [], ⟨1, 7⟩⟩
    let parts (identifier : String) : List Node :=
      [.element ⟨"assembly", [], {}⟩ [.element ⟨"name", [], {}⟩ [.text "Lib" {}]],
        .element ⟨"members", [], {}⟩ [.element ⟨"member", [("name", identifier)], {}⟩ []]]
    let page : Node := .element ⟨"para", [], ⟨1, 1⟩⟩ [.element document (parts "T:Lib.Shape")]
    standardRules.FromStandard ∧
      LabelsAgree standardRules (some "Lib") (some "Other") none page ∧
      renderNode standardRules (some "Other") none page =
        .ok "# Lib #\n\n## Type Shape\n\n\n\n---\n\n\n\n\n" ∧
      (Reached standardRules none page [0] ⟨document, none⟩ ∧
        Visit.IsDocument standardRules ⟨document, none⟩) ∧
      ∃ frame : Frame,
        renderNode standardRules (some "Other") none page =
          frame.fill (.ok "# Lib #\n\n## Type Shape\n\n\n\n---\n\n\n") ∧
        renderNode standardRules (some "Other") none (page.replaceAt [0]
          (.element document (parts "N:Lib"))) = frame.fill (.ok "# Lib #\n\n\n\n") := by
  intro document parts page
  have standard := RuleTable.fromStandard_standardRules
  have para : standardRules.find? "para" = some ⟨[.slot 0, .literal "\n\n"], .body⟩ := rfl
  have reached : Reached standardRules none page [0] ⟨document, none⟩ :=
    .child para ⟨"para", by decide, para⟩ rfl (.here _ _ _)
  have isDocument : Visit.IsDocument standardRules ⟨document, none⟩ := by
    unfold Visit.IsDocument
    decide
  have agree : LabelsAgree standardRules (some "Lib") (some "Other") none page := by
    intro path visit inside labelled
    change Reached _ _ (.element ⟨"para", _, _⟩ [_]) _ _ at inside
    rcases path with _ | ⟨i, _ | ⟨j, path⟩⟩
    · cases inside
      cases labelled.extract_eq para
    · cases inside with
      | child _ _ place below =>
        cases i <;> simp at place
        subst place
        cases below
        cases labelled.extract_eq (show _ = standardRules.find? "doc" by decide)
    · cases inside with
      | child _ _ place _ =>
        cases i <;> simp at place
        exact Or.inl ⟨[0], _, by simp, by simp, reached, isDocument⟩
      | member _ _ place =>
        cases i <;> simp at place
        exact Or.inl ⟨[0], _, by simp, by simp, reached, isDocument⟩
  obtain ⟨-, same, -, nested⟩ := context_reaches_labels_only standard none page
  obtain ⟨-, framed⟩ := nested [0] _ reached
  obtain ⟨frame, -, -, shown⟩ := framed (some "Other")
  refine ⟨standard, agree, ?_, ⟨reached, isDocument⟩, frame, ?_, ?_⟩
  · rw [← same _ _ agree]
    decide +kernel
  · exact (shown isDocument (parts "T:Lib.Shape")).trans (congrArg frame.fill (by decide +kernel))
  · exact (shown isDocument (parts "N:Lib")).trans (congrArg frame.fill (by decide +kernel))

end MemberDocs.Markdown
