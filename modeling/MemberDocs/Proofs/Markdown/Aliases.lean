import MemberDocs.Proofs.Doc.Renaming
import MemberDocs.Proofs.Markdown.Comparison

/-! # Aliases of tags

A rule is chosen by the name of an element, and by nothing else of the name, unless it is one of the
few that rendering tells apart on its own: members, references, parameters, and the frame of a
document (`structuralNames`). So a name that stands for another one of the table (`IsAlias`) does
what renaming does: a tree in which the elements are called by the new name is rendered under the
table with the alias as the tree was under the standard one (`renaming_follows_alias`). For one
element this is the look-up (`IsAlias.find?_renamed`); that the extracts do not see the difference
is `IsAlias.visits_mapTagsAll`, `IsAlias.context_mapTagsAll` and `IsAlias.apply_mapTagsAll`.
-/

namespace MemberDocs.Markdown

open Node (mapTagsAll)

/-- The heads in what a rule visits are in the element. -/
theorem Node.Holds.of_visits {extract : Extract} {head tag : Tag} {children : List Node}
    {node : Node} (visited : node ∈ extract.visits children) (inside : node.Holds tag) :
    (Node.element head children).Holds tag := by
  have direct : node ∈ children → (Node.element head children).Holds tag :=
    fun member => .child member inside
  cases extract with
  | body | attributeAndBody | member | anchor => exact direct visited
  | reference | attributeAlone | keyword | code | nothing => cases visited
  | document =>
    cases found : Node.child? "members" children with
    | none => simp [Extract.visits, documentMembers, found] at visited
    | some members =>
      have listed : node ∈ members.children.filter (Node.isNamed "member") := by
        simpa [Extract.visits, documentMembers, found] using visited
      obtain ⟨i, place, -, -⟩ := Node.child?_eq_some_iff.mp found
      exact .child (List.mem_of_getElem? place) (.child (List.mem_filter.mp listed).1 inside)

/-! ## Names that only the table knows -/

/-- The names by which rendering tells elements apart without asking the table. -/
def structuralNames : List String := ["member", "see", "assembly", "name", "members"]

/-- A name that means to rendering only what the table says of it. -/
structure IsPlainName (name : String) : Prop where
  notStructural : name ∉ structuralNames
  notParameter : namesParameter name = false

theorem IsPlainName.ne {name other : String} (plain : IsPlainName name)
    (listed : other ∈ structuralNames) : other ≠ name := by
  intro same
  exact plain.notStructural (same ▸ listed)

theorem IsPlainName.ne_param {name : String} (plain : IsPlainName name) : "param" ≠ name := by
  intro same
  have parameter := namesParameter_of_param same.symm
  rw [plain.notParameter] at parameter
  cases parameter

theorem IsPlainName.effectiveName_eq {tag : Tag} (plain : IsPlainName tag.name)
    (previous : Option Tag) : effectiveName tag previous = tag.name :=
  effectiveName_of_plain previous (plain.ne (by decide)).symm (plain.ne (by decide)).symm
    plain.notParameter

/-! ## One name that stands for another -/

/-- `new` can stand for `old`: the standard table has a rule for `old` and none for `new`, and
neither name means anything else to rendering. -/
structure IsAlias (old new : String) (rule : TagRule) : Prop where
  known : standardRules.find? old = some rule
  free : standardRules.find? new = none
  plainOld : IsPlainName old
  plainNew : IsPlainName new

namespace IsAlias

variable {old new : String} {rule : TagRule} (stands : IsAlias old new rule)

include stands

theorem keepsName {name : String} (listed : name ∈ structuralNames) :
    Tag.KeepsName (Tag.renamed old new) name :=
  Tag.keepsName_renamed (stands.plainOld.ne listed) (stands.plainNew.ne listed)

/-- Whether a `param` stands before a part does not change. -/
theorem all_ne_param (previous : Option Tag) :
    (previous.map (Tag.renamed old new)).all (·.name ≠ "param") =
      previous.all (·.name ≠ "param") := by
  cases previous with
  | none => rfl
  | some last =>
    have same := Tag.keepsName_renamed stands.plainOld.ne_param stands.plainNew.ne_param last
    exact decide_eq_decide.mpr (not_congr same)

theorem assemblyName_mapTagsAll (children : List Node) :
    assemblyName (mapTagsAll (Tag.renamed old new) children) = assemblyName children := by
  have inAssembly := stands.keepsName (show "assembly" ∈ structuralNames by decide)
  have inName := stands.keepsName (show "name" ∈ structuralNames by decide)
  unfold assemblyName
  rw [Node.child?_mapTagsAll inAssembly]
  cases Node.child? "assembly" children with
  | none => rfl
  | some e =>
    simp only [Option.map_some, Node.child?_mapTagsAll inName]
    cases Node.child? "name" e.children with
    | none => rfl
    | some inner => exact Node.textContentAll_mapTagsAll _ inner.children

theorem documentMembers_mapTagsAll (children : List Node) :
    documentMembers (mapTagsAll (Tag.renamed old new) children) =
      mapTagsAll (Tag.renamed old new) (documentMembers children) := by
  have inMembers := stands.keepsName (show "members" ∈ structuralNames by decide)
  have isMember := stands.keepsName (show "member" ∈ structuralNames by decide)
  unfold documentMembers
  rw [Node.child?_mapTagsAll inMembers]
  cases Node.child? "members" children with
  | none => rfl
  | some members => exact Node.filter_isNamed_mapTagsAll isMember members.children

theorem visits_mapTagsAll (extract : Extract) (children : List Node) :
    extract.visits (mapTagsAll (Tag.renamed old new) children) =
      (extract.visits children).map (Node.mapTags (Tag.renamed old new)) := by
  rw [← Node.mapTagsAll_eq_map]
  cases extract with
  | document => exact stands.documentMembers_mapTagsAll children
  | _ => rfl

theorem context_mapTagsAll (extract : Extract) (children : List Node) (outer : Option String) :
    extract.context (mapTagsAll (Tag.renamed old new) children) outer =
      extract.context children outer := by
  cases extract with
  | document => exact congrArg some (stands.assemblyName_mapTagsAll children)
  | _ => rfl

theorem apply_mapTagsAll (applied : TagRule) (tag : Tag) (children : List Node)
    (outer : Option String) :
    applied.apply (tag.renamed old new) (mapTagsAll (Tag.renamed old new) children) outer =
      applied.apply tag children outer := by
  funext rendered
  rw [TagRule.apply, TagRule.apply]
  cases applied.extract <;>
    simp [Extract.values, stands.assemblyName_mapTagsAll, referenceLabel,
      Node.textContentAll_mapTagsAll]

variable {tag : Tag} (previous : Option Tag)

/-- An element that is not renamed is looked up under the same name. -/
theorem effectiveName_of_ne (other : tag.name ≠ old) :
    effectiveName (tag.renamed old new) (previous.map (Tag.renamed old new)) =
      effectiveName tag previous := by
  rw [Tag.renamed_of_ne other, effectiveName, stands.all_ne_param, ← effectiveName]

/-- An element has the rule that it had before it was renamed. -/
theorem find?_renamed (absent : tag.name ≠ new) :
    (standardRules.insert new rule).find?
        (effectiveName (tag.renamed old new) (previous.map (Tag.renamed old new))) =
      standardRules.find? (effectiveName tag previous) := by
  rw [RuleTable.find?_insert]
  by_cases named : tag.name = old
  · have newName : (tag.renamed old new).name = new := Tag.name_renamed_of_eq named
    have plainNew : IsPlainName (tag.renamed old new).name := newName.symm ▸ stands.plainNew
    have plainOld : IsPlainName tag.name := named ▸ stands.plainOld
    rw [plainNew.effectiveName_eq, if_pos newName, plainOld.effectiveName_eq, named, stands.known]
  · rw [stands.effectiveName_of_ne previous named, if_neg]
    intro lookedUp
    have own := effectiveName_of_unknown (lookedUp ▸ stands.free)
    exact absent (own.symm.trans lookedUp)

/-- An element without a rule is not one that is renamed. -/
theorem ne_of_unknown (unknown : standardRules.find? (effectiveName tag previous) = none) :
    tag.name ≠ old := by
  intro named
  have plainOld : IsPlainName tag.name := named ▸ stands.plainOld
  rw [plainOld.effectiveName_eq, named, stands.known] at unknown
  cases unknown

theorem renderNode_renamed {node : Node} (absent : ∀ tag, node.Holds tag → tag.name ≠ new)
    (context : Option String) (previous : Option Tag) :
    renderNode (standardRules.insert new rule) context (previous.map (Tag.renamed old new))
        (node.mapTags (Tag.renamed old new)) =
      renderNode standardRules context previous node := by
  induction node using Node.visitInduction generalizing context previous with
  | text content position => rw [Node.mapTags_text, renderNode_text, renderNode_text]
  | element tag children ih =>
    have lookup := stands.find?_renamed previous (absent tag .here)
    rw [Node.mapTags_element]
    cases found : standardRules.find? (effectiveName tag previous) with
    | none =>
      have other := stands.ne_of_unknown previous found
      rw [renderNode_of_unknown children found, renderNode_of_unknown _ (lookup.trans found),
        stands.effectiveName_of_ne previous other, Tag.position_renamed]
    | some shown =>
      rw [renderNode_of_rule children found, renderNode_of_rule _ (lookup.trans found),
        stands.visits_mapTagsAll, stands.context_mapTagsAll, stands.apply_mapTagsAll]
      congr 1
      symm
      apply keptByJoining_eq.renderSiblings (Node.tag?_mapTags _)
      intro i part place last before
      symm
      have visited := List.mem_of_getElem? place
      apply ih shown.extract part visited
      intro tag inside
      exact absent tag (Node.Holds.of_visits visited inside)

end IsAlias

/-- **Aliases.** Let `new` stand for `old`, and let no element of a tree be called `new`. The tree
in which every element called `old` is called `new` instead is rendered, under the standard table
with the rule of `old` for `new` too, as the tree itself under the standard table: to the same
Markdown or with the same error, wherever the tree stands and in every context. -/
theorem renaming_follows_alias {old new : String} {rule : TagRule} (stands : IsAlias old new rule)
    {node : Node} (absent : ∀ tag, node.Holds tag → tag.name ≠ new) (context : Option String) :
    (∀ previous, renderNode (standardRules.insert new rule) context
        (previous.map (Tag.renamed old new)) (node.mapTags (Tag.renamed old new)) =
      renderNode standardRules context previous node) ∧
    renderMarkdown (standardRules.insert new rule) context (node.mapTags (Tag.renamed old new)) =
      renderMarkdown standardRules context node := by
  have same := stands.renderNode_renamed absent context
  refine ⟨same, ?_⟩
  have whole := same none
  rw [Option.map_none] at whole
  rw [renderMarkdown, renderMarkdown, whole]

/-- A remark in a summary is called a note; what has no rule is still reported. -/
theorem remark_is_called_note :
    let rule : TagRule := ⟨[.literal "\n\n>", .slot 0, .literal "\n\n"], .body⟩
    let tree (last : String) : Node := .element ⟨"summary", [], ⟨1, 1⟩⟩
      [.element ⟨"remarks", [], ⟨1, 10⟩⟩ [.text "a\nb" ⟨1, 19⟩], .element ⟨last, [], ⟨2, 12⟩⟩ []]
    let called : Tag → Tag := Tag.renamed "remarks" "note"
    IsAlias "remarks" "note" rule ∧
      (∀ last ∈ ["inheritdoc", "bogus"], ∀ tag, (tree last).Holds tag → tag.name ≠ "note") ∧
      renderMarkdown (standardRules.insert "note" rule) none ((tree "inheritdoc").mapTags called) =
        .ok "\n\n>a b\n\n*Inherits documentation from base.*\n\n" ∧
      renderMarkdown (standardRules.insert "note" rule) none ((tree "bogus").mapTags called) =
        .error (.unknownTag ⟨"bogus", ⟨2, 12⟩⟩) := by
  intro rule tree called
  have stands : IsAlias "remarks" "note" rule :=
    ⟨rfl, rfl, ⟨by decide, by decide⟩, ⟨by decide, by decide⟩⟩
  have absent : ∀ last ∈ ["inheritdoc", "bogus"], ∀ tag,
      (tree last).Holds tag → tag.name ≠ "note" := by
    simp [tree, Node.holds_element_iff, Node.not_holds_text]
  refine ⟨stands, absent, ?_, ?_⟩
  · rw [(renaming_follows_alias stands (absent "inheritdoc" (by decide)) none).2]
    decide +kernel
  · rw [(renaming_follows_alias stands (absent "bogus" (by decide)) none).2]
    decide +kernel

end MemberDocs.Markdown
