import MemberDocs.Proofs.Markdown.Skeleton
import MemberDocs.Proofs.Text.Blank

/-! # The texts that a rendering shows

The texts of the documentation that are shown are those below the elements whose rules show their
body, without what is below a `paramref`, which shows its name only (`shownTexts`). All else that a
rendering may read of a tree is its `skeleton`: the names and attributes of its elements, its shape,
and the text of code, of references and of assembly names.

Every shown text is in the Markdown once, in its order and with its blanks collapsed, and what stands
between them comes from the skeleton alone (`rendering_weaves_shown_texts`).
-/

namespace MemberDocs.Markdown

/-! ## Shown texts -/

/-- The parts below an element whose texts are shown, by the name the element is looked up under. -/
def shownParts (name : String) (children : List Node) : List Node :=
  if name = "doc" then documentMembers children
  else if name ∈ bodyRuleNames ∧ name ≠ "paramref" then children
  else []

theorem sizeOf_shownParts_le (name : String) (children : List Node) :
    sizeOf (shownParts name children) ≤ sizeOf children := by
  unfold shownParts
  split
  · exact Extract.sizeOf_documentMembers_le children
  · split
    · exact Nat.le_refl _
    · exact Node.sizeOf_nil_le children

mutual

/-- The texts of a part that are shown, in the order of the document. -/
def shownTexts (previous : Option Tag) : Node → List String
  | .text content _ => [content]
  | .element tag children =>
    shownTextsAmong none (shownParts (effectiveName tag previous) children)
termination_by node => sizeOf node
decreasing_by
  have := sizeOf_shownParts_le (effectiveName tag previous) children
  simp
  omega

/-- The texts of neighbouring parts that are shown. -/
def shownTextsAmong (previous : Option Tag) : List Node → List String
  | [] => []
  | node :: rest => shownTexts previous node ++ shownTextsAmong (node.tag?.or previous) rest
termination_by nodes => sizeOf nodes

end

/-- Of the values of an extract, the one that is rendered has the texts of what is visited. -/
theorem Extract.shownIn_rows (extract : Extract) (tag : Tag) (children : List Node)
    (outer : Option String) (body : List Chunk) (index : Nat) :
    shownIn ((extract.rows tag children outer body).getD index []) =
      if extract.bodySlot? = some index then shownIn body else [] := by
  rcases index with _ | _ | index <;> cases extract <;> simp [rows, bodySlot?, values, shownIn]

theorem Template.shownIn_fillRows (rows : List (List Chunk)) (template : Template) :
    shownIn (template.fillRows rows) =
      template.slots.flatMap fun index => shownIn (rows.getD index []) := by
  induction template with
  | nil => rfl
  | cons piece rest ih =>
    cases piece with
    | literal text => simpa [fillRows, slots, shownIn] using ih
    | slot index => simpa [fillRows, slots, shownIn_append] using ih

/-- Every standard rule shows what it visits once, but the rule for `paramref` does not show it. -/
theorem standardRules_bodySlots : ∀ entry ∈ standardRules,
    (Template.slots entry.2.template).filter (fun index => entry.2.extract.bodySlot? = some index) =
      if entry.1 = "paramref" then [] else entry.2.extract.bodySlot?.toList := by
  decide

theorem Extract.visits_of_noSlot {extract : Extract} (noSlot : extract.bodySlot? = none)
    (children : List Node) : extract.visits children = [] := by
  cases extract <;> simp_all [bodySlot?, visits]

theorem flatMap_ite_nil {α β : Type*} (chosen : α → Bool) (values : List β) (indices : List α) :
    (indices.flatMap fun index => if chosen index then values else []) =
      (indices.filter chosen).flatMap fun _ => values := by
  induction indices with
  | nil => rfl
  | cons index rest ih => by_cases isChosen : chosen index <;> simp [isChosen, ih]

section StandardRule

variable {rule : TagRule} {name : String} (found : standardRules.find? name = some rule)

include found

/-- What a standard rule opens, but for `paramref`, is what it shows the texts of. -/
theorem shownParts_of_standard (children : List Node) :
    shownParts name children =
      if name = "paramref" then [] else rule.extract.visits children := by
  have scope := standardRules_scope _ (mem_of_lookup found)
  by_cases isDoc : name = "doc"
  · have extract : rule.extract = .document := scope.2.mpr isDoc
    simp [shownParts, isDoc, extract, Extract.visits]
  by_cases listed : name ∈ bodyRuleNames
  · have visited := Extract.visits_of_opensBody (scope.1.mpr listed) children
    by_cases isReference : name = "paramref"
    · simp [shownParts, isReference]
    · simp [shownParts, isDoc, listed, isReference, visited]
  · have closed : rule.extract.opensBody = false := by
      by_contra opens
      exact listed (scope.1.mp (by simpa using opens))
    have visited := Extract.visits_of_closed closed (fun extract => isDoc (scope.2.mp extract))
      children
    simp [shownParts, isDoc, listed, visited]

/-- The row that a standard rule makes shows the texts of what the rule visits, once. -/
theorem shownIn_of_standard (tag : Tag) (children : List Node) (context : Option String)
    {body : List Chunk} (silent : rule.extract.visits children = [] → shownIn body = []) :
    shownIn (Template.fillRows (rule.extract.rows tag children context body) rule.template) =
      if name = "paramref" then [] else shownIn body := by
  have slots := standardRules_bodySlots _ (mem_of_lookup found)
  simp only at slots
  rw [Template.shownIn_fillRows]
  simp only [Extract.shownIn_rows]
  have chosen := flatMap_ite_nil (fun index => decide (rule.extract.bodySlot? = some index))
    (shownIn body) rule.template.slots
  simp only [decide_eq_true_eq] at chosen
  rw [chosen, slots]
  by_cases isReference : name = "paramref"
  · simp [isReference]
  · -- A rule without a slot for what it visits visits nothing, so no text is lost in it.
    cases slot : rule.extract.bodySlot? with
    | none => simp [isReference, silent (Extract.visits_of_noSlot slot children)]
    | some index => simp [isReference]

end StandardRule

theorem shownIn_outlineSiblings {nodes : List Node}
    (each : ∀ node ∈ nodes, ∀ context previous row,
      outline? context previous node = some row → shownIn row = shownTexts previous node)
    {context : Option String} {previous : Option Tag} {row : List Chunk}
    (outlined : outlineSiblings? context previous nodes = some row) :
    shownIn row = shownTextsAmong previous nodes := by
  induction nodes generalizing previous row with
  | nil =>
    rw [outlineSiblings?_nil] at outlined
    obtain rfl : [] = row := by simpa using outlined
    rw [shownTextsAmong]
    rfl
  | cons node rest ih =>
    rw [outlineSiblings?_cons] at outlined
    obtain ⟨first, ownRow, outlined⟩ := Option.bind_eq_some_iff.mp outlined
    obtain ⟨others, laterRow, rfl⟩ := Option.map_eq_some_iff.mp outlined
    rw [shownIn_append, shownTextsAmong, each node List.mem_cons_self _ _ _ ownRow,
      ih (fun part member => each part (List.mem_cons_of_mem node member)) laterRow]

/-- The row of a part shows its texts. -/
theorem shownIn_outline (node : Node) {context : Option String} {previous : Option Tag}
    {row : List Chunk} (outlined : outline? context previous node = some row) :
    shownIn row = shownTexts previous node := by
  induction node using Node.visitInduction generalizing context previous row with
  | text content position =>
    rw [outline?_text] at outlined
    obtain rfl : [Chunk.shown content] = row := by simpa using outlined
    rw [shownTexts]
    rfl
  | element tag children ih =>
    cases found : standardRules.find? (effectiveName tag previous) with
    | none =>
      rw [outline?_of_unknown children found] at outlined
      simp at outlined
    | some rule =>
      rw [outline?_of_rule children found] at outlined
      obtain ⟨body, bodyRow, rfl⟩ := Option.map_eq_some_iff.mp outlined
      have shown : shownIn body = shownTextsAmong none (rule.extract.visits children) :=
        shownIn_outlineSiblings (fun part member _ _ _ => ih rule.extract part member) bodyRow
      have silent : rule.extract.visits children = [] → shownIn body = [] := by
        intro nothing
        rw [shown, nothing, shownTextsAmong]
      rw [shownIn_of_standard found tag children context silent, shownTexts,
        shownParts_of_standard found]
      by_cases isReference : effectiveName tag previous = "paramref"
      · simp [isReference, shownTextsAmong]
      · simp [isReference, shown]

/-! ## The texts and what stands between them -/

/-- **Shown texts.** Of a tree that can be rendered under the standard rules, the Markdown before its
line breaks are finished is a row of gaps with the shown texts in between, each of them once, in their
order and with its blanks collapsed. The gaps come from the skeleton of the tree, so that every tree
with this skeleton is rendered with the same gaps around its own texts. Collapsing blanks takes
nothing else from a text. -/
theorem rendering_weaves_shown_texts :
    ∃ glue : Option String → Node → List String,
      ∀ context node markdown, renderNode standardRules context none node = .ok markdown →
        (glue context node.skeleton).length = (shownTexts none node).length + 1 ∧
        markdown =
          weave (glue context node.skeleton) ((shownTexts none node).map Text.collapse) ∧
        (∀ other : Node, other.skeleton = node.skeleton →
          (shownTexts none other).length = (shownTexts none node).length ∧
          renderNode standardRules context none other = .ok
            (weave (glue context node.skeleton) ((shownTexts none other).map Text.collapse))) ∧
        ∀ text ∈ shownTexts none node,
          (Text.collapse text).toList.filter (!Text.isBlank ·) =
            text.toList.filter (!Text.isBlank ·) := by
  refine ⟨fun context tree => gaps ((outline? context none tree).getD []), ?_⟩
  intro context node markdown rendered
  have written := renderNode_eq_outline node context none
  rw [rendered] at written
  obtain ⟨row, outlined, markdownEq⟩ := Option.map_eq_some_iff.mp written.symm
  -- A tree with this skeleton has a row that differs from this one in its texts only.
  have glue (other : Node) (same : other.skeleton = node.skeleton) :
      ∃ otherRow, outline? context none other = some otherRow ∧
        gaps otherRow = gaps ((outline? context none node.skeleton).getD []) := by
    have own := outline?_skeleton node context none
    have others := outline?_skeleton other context none
    rw [same, own, outlined] at others
    obtain ⟨otherRow, otherOutlined, blanked⟩ := Option.map_eq_some_iff.mp others.symm
    rw [Option.map_none, outlined] at own
    refine ⟨otherRow, otherOutlined, ?_⟩
    rw [own, Option.map_some, Option.getD_some, ← gaps_map_blank, blanked]
  have weaves (other : Node) (same : other.skeleton = node.skeleton) :
      (gaps ((outline? context none node.skeleton).getD [])).length =
          (shownTexts none other).length + 1 ∧
        renderNode standardRules context none other = .ok
          (weave (gaps ((outline? context none node.skeleton).getD []))
            ((shownTexts none other).map Text.collapse)) := by
    obtain ⟨otherRow, otherOutlined, gapsEq⟩ := glue other same
    rw [← gapsEq, ← shownIn_outline other otherOutlined, weave_gaps]
    refine ⟨length_gaps otherRow, ?_⟩
    have otherWritten := renderNode_eq_outline other context none
    rw [otherOutlined] at otherWritten
    exact toOption_eq_some_iff.mp otherWritten
  obtain ⟨count, own⟩ := weaves node rfl
  refine ⟨count, ?_, ?_, fun text _ => Text.filter_collapse text⟩
  · rw [rendered] at own
    exact Except.ok.inj own
  · intro other same
    obtain ⟨otherCount, otherRendered⟩ := weaves other same
    exact ⟨by omega, otherRendered⟩

/-- Braces and bars are shown as they are, and what is below a `paramref` is not shown. -/
theorem paragraph_shows_its_texts :
    let tree : Node := .element ⟨"para", [], ⟨1, 1⟩⟩
      [.text "\n  a \x7b0\x7d" ⟨1, 7⟩,
        .element ⟨"paramref", [("name", "side")], ⟨2, 8⟩⟩ [.text "lost" ⟨2, 20⟩],
        .element ⟨"c", [], ⟨3, 1⟩⟩ [.text "x|y" ⟨3, 4⟩]]
    renderNode standardRules none none tree = .ok " a \x7b0\x7d`side` `x|y` \n\n" ∧
      ∃ glue : List String, glue.length = 3 ∧
        weave glue [" a \x7b0\x7d", "x|y"] = " a \x7b0\x7d`side` `x|y` \n\n" := by
  intro tree
  have rendered : renderNode standardRules none none tree =
      .ok " a \x7b0\x7d`side` `x|y` \n\n" :=
    toOption_eq_some_iff.mp (by decide +kernel)
  have shown : shownTexts none tree = ["\n  a \x7b0\x7d", "x|y"] := by decide +kernel
  obtain ⟨glue, spec⟩ := rendering_weaves_shown_texts
  obtain ⟨count, woven, -⟩ := spec none tree _ rendered
  rw [shown] at count woven
  exact ⟨rendered, glue none tree.skeleton, count, woven.symm⟩

end MemberDocs.Markdown
