import MemberDocs.Proofs.Markdown.Step

/-! # Parameter tables

Neighbouring parts are rendered one after the other, and a part is told nothing of those before it but
whether the last element among them is a `param` (`renderSiblings_append`, `effectiveName_of_free`). So
the renderings of two lists of parts make that of both in one, unless the second starts with a parameter
and the first ends with a `param` (`renderNodes_append`). A parameter that does not follow a `param`
opens a table (`renderSiblings_opening`), and the `param` elements after it add a row each
(`renderSiblings_rows`). `siblings_join_outside_tables` says all of this of two lists.
-/

namespace MemberDocs.Markdown

/-! ## One rendering after the other -/

/-- Two renderings one after the other: of two faults the first one counts. -/
def followedBy (first second : Except RenderError String) : Except RenderError String :=
  first.bind fun text => second.map (text ++ ·)

@[simp] theorem empty_followedBy (second : Except RenderError String) :
    followedBy (.ok "") second = second := by
  cases second <;> simp [followedBy, Except.bind, Except.map]

@[simp] theorem followedBy_empty (first : Except RenderError String) :
    followedBy first (.ok "") = first := by
  cases first <;> simp [followedBy, Except.bind, Except.map]

theorem followedBy_assoc (first second third : Except RenderError String) :
    followedBy (followedBy first second) third = followedBy first (followedBy second third) := by
  cases first with
  | error error => rfl
  | ok text =>
    cases second with
    | error error => rfl
    | ok next => cases third <;> simp [followedBy, Except.bind, Except.map, String.append_assoc]

theorem map_append_followedBy (lead : String) (first second : Except RenderError String) :
    followedBy (first.map (lead ++ ·)) second = (followedBy first second).map (lead ++ ·) := by
  cases first with
  | error error => rfl
  | ok text => cases second <;> simp [followedBy, Except.bind, Except.map, String.append_assoc]

/-- The first element among some parts. -/
def firstTag? (nodes : List Node) : Option Tag :=
  nodes.findSome? Node.tag?

/-- The name is that of a parameter of some kind. -/
def namesParameter (name : String) : Bool :=
  "param".toList.isSuffixOf name.toList

theorem namesParameter_of_param {name : String} (named : name = "param") : namesParameter name := by
  rw [named]
  decide

/-- The last element of the parts is a `param`. -/
def EndsWithParam (nodes : List Node) : Prop :=
  ∃ tag ∈ Node.lastTag? nodes, tag.name = "param"

/-- The first element of the parts is a parameter of some kind; only texts stand before it. -/
def StartsWithParameter (nodes : List Node) : Prop :=
  ∃ texts tag children rest, nodes = texts ++ .element tag children :: rest ∧
    (∀ text ∈ texts, text.tag? = none) ∧ namesParameter tag.name

variable {table : RuleTable} {context : Option String} {previous other : Option Tag}

/-- The Markdown of an element under the rule for a name. -/
def renderAs (table : RuleTable) (context : Option String) (name : String) (tag : Tag)
    (children : List Node) : Except RenderError String :=
  match table.find? name with
  | none => .error (.unknownTag ⟨name, tag.position⟩)
  | some rule =>
    (renderNodes table (rule.extract.context children context)
      (rule.extract.visits children)).bind (rule.apply tag children context)

theorem renderNode_element (tag : Tag) (children : List Node) :
    renderNode table context previous (.element tag children) =
      renderAs table context (effectiveName tag previous) tag children := by
  unfold renderAs
  cases found : table.find? (effectiveName tag previous) with
  | none => exact renderNode_of_unknown children found
  | some rule => exact renderNode_of_rule children found

theorem renderSiblings_cons_eq (node : Node) (rest : List Node) :
    renderSiblings table context previous (node :: rest) =
      followedBy (renderNode table context previous node)
        (renderSiblings table context (node.tag?.or previous) rest) :=
  renderSiblings_cons node rest

@[simp] theorem renderNodes_nil : renderNodes table context [] = .ok "" :=
  renderSiblings_nil

theorem renderNodes_text (content : String) (position : Position) :
    renderNodes table context [.text content position] = .ok (Text.collapse content) := by
  rw [renderNodes, renderSiblings_cons_eq, renderNode_text, renderSiblings_nil, followedBy_empty]

/-- The parts that come later are told the last element of those before them. -/
theorem renderSiblings_append (xs ys : List Node) :
    renderSiblings table context previous (xs ++ ys) =
      followedBy (renderSiblings table context previous xs)
        (renderSiblings table context ((Node.lastTag? xs).or previous) ys) := by
  induction xs generalizing previous with
  | nil => simp
  | cons node rest ih =>
    rw [List.cons_append, renderSiblings_cons_eq, renderSiblings_cons_eq, ih, followedBy_assoc,
      Node.lastTag?_cons, Option.or_assoc]

/-! ## What is told of the parts before -/

theorem all_ne_param (free : ∀ tag ∈ previous, tag.name ≠ "param") :
    previous.all (·.name ≠ "param") = true := by
  cases previous with
  | none => rfl
  | some last => simpa using free last rfl

/-- An element that is no parameter is looked up alike wherever it stands, and a parameter wherever no
`param` stands before it. -/
theorem effectiveName_of_free {tag : Tag}
    (free : namesParameter tag.name → ∀ last ∈ previous, last.name ≠ "param") :
    effectiveName tag previous = effectiveName tag none := by
  unfold effectiveName
  cases parameter : namesParameter tag.name with
  | true =>
    rw [all_ne_param (free parameter)]
    rfl
  | false =>
    rw [namesParameter] at parameter
    simp only [parameter, Bool.false_and]

/-- A parameter opens a table unless it follows a `param`. -/
theorem effectiveName_parameter {tag : Tag} (parameter : namesParameter tag.name) :
    effectiveName tag previous =
      if previous.all (·.name ≠ "param") then "first-param" else tag.name := by
  have other : ∀ name, namesParameter name = false → tag.name ≠ name := by
    rintro name unlike rfl
    rw [unlike] at parameter
    cases parameter
  rw [effectiveName, if_neg (other "member" (by decide)), if_neg (other "see" (by decide))]
  rw [namesParameter] at parameter
  rw [parameter, Bool.true_and]

theorem effectiveName_opening {tag : Tag} (parameter : namesParameter tag.name)
    (free : ∀ last ∈ previous, last.name ≠ "param") :
    effectiveName tag previous = "first-param" := by
  rw [effectiveName_parameter parameter, all_ne_param free, if_pos rfl]

theorem effectiveName_following {tag last : Tag} (parameter : namesParameter tag.name)
    (follows : last.name = "param") : effectiveName tag (some last) = tag.name := by
  rw [effectiveName_parameter parameter, if_neg (by simp [follows])]

/-- Parts of which the first element is looked up under the same name are rendered alike. -/
theorem renderSiblings_congr {nodes : List Node}
    (alike : ∀ tag ∈ firstTag? nodes, effectiveName tag previous = effectiveName tag other) :
    renderSiblings table context previous nodes = renderSiblings table context other nodes := by
  induction nodes with
  | nil => simp
  | cons node rest ih =>
    rw [renderSiblings_cons_eq, renderSiblings_cons_eq]
    cases node with
    | text content position =>
      rw [renderNode_text, renderNode_text]
      exact congrArg (followedBy _) (ih alike)
    | element tag children =>
      rw [renderNode_element, renderNode_element, alike tag rfl]
      rfl

/-- Texts are rendered alike wherever they stand. -/
theorem renderSiblings_of_texts {texts : List Node} (onlyTexts : ∀ text ∈ texts, text.tag? = none) :
    renderSiblings table context previous texts = renderNodes table context texts := by
  apply renderSiblings_congr
  intro tag first
  rw [firstTag?, List.findSome?_eq_none_iff.mpr onlyTexts] at first
  cases first

theorem startsWithParameter_of_firstTag? {nodes : List Node} {tag : Tag}
    (first : firstTag? nodes = some tag) (parameter : namesParameter tag.name) :
    StartsWithParameter nodes := by
  obtain ⟨texts, node, rest, parts, own, onlyTexts⟩ := List.findSome?_eq_some_iff.mp first
  cases node with
  | text content position => cases own
  | element head children =>
    obtain rfl : head = tag := by simpa [Node.tag?] using own
    exact ⟨texts, head, children, rest, parts, onlyTexts, parameter⟩

theorem renderNodes_append {xs ys : List Node}
    (apart : ¬ (EndsWithParam xs ∧ StartsWithParameter ys)) :
    renderNodes table context (xs ++ ys) =
      followedBy (renderNodes table context xs) (renderNodes table context ys) := by
  have alike : ∀ tag ∈ firstTag? ys,
      effectiveName tag (Node.lastTag? xs) = effectiveName tag none := by
    intro tag first
    apply effectiveName_of_free
    intro parameter last found named
    exact apart ⟨⟨last, found, named⟩, startsWithParameter_of_firstTag? first parameter⟩
  rw [renderNodes, renderSiblings_append, Option.or_none, renderSiblings_congr alike]
  rfl

/-! ## Rows -/

/-- The head of a parameter table. -/
def tableHeader : String :=
  "|Name | Description |\n|-----|------|\n"

/-- The row of a parameter: its name and its description. -/
def tableRow (context : Option String) (tag : Tag) (children : List Node) :
    Except RenderError String :=
  (renderNodes standardRules context children).map fun description =>
    "|" ++ tag.attributeOrEmpty "name" ++ ": |" ++ description ++ "|\n"

/-- The head of a table and its first row. -/
def tableOpening (context : Option String) (tag : Tag) (children : List Node) :
    Except RenderError String :=
  (tableRow context tag children).map (tableHeader ++ ·)

/-- A parameter that follows a `param` adds a row if it has a rule of its own, and the rule that opens
a table may be called by its name. -/
def rowAfterParam (context : Option String) (tag : Tag) (children : List Node) :
    Except RenderError String :=
  if tag.name = "param" ∨ tag.name = "typeparam" then tableRow context tag children
  else if tag.name = "first-param" then tableOpening context tag children
  else .error (.unknownTag ⟨tag.name, tag.position⟩)

/-- What a part of a table shows: rows, and the texts between them. -/
def tablePart (context : Option String) : Node → Except RenderError String
  | .text content _ => .ok (Text.collapse content)
  | .element tag children => tableRow context tag children

/-- Rows and texts, one after the other. -/
def tableParts (context : Option String) (nodes : List Node) : Except RenderError String :=
  (nodes.mapM (tablePart context)).map String.join

theorem tableParts_cons (context : Option String) (node : Node) (rest : List Node) :
    tableParts context (node :: rest) =
      followedBy (tablePart context node) (tableParts context rest) := by
  rw [tableParts, tableParts, mapM_cons_eq]
  cases tablePart context node with
  | error error => rfl
  | ok first =>
    cases rest.mapM (tablePart context) <;>
      simp [followedBy, Except.bind, Except.map, String.join_cons]

theorem renderAs_row {name : String} (rows : name = "param" ∨ name = "typeparam") (tag : Tag)
    (children : List Node) :
    renderAs standardRules context name tag children = tableRow context tag children := by
  have found : standardRules.find? name = some ⟨rowTemplate, .attributeAndBody "name"⟩ := by
    rcases rows with rfl | rfl <;> rfl
  rw [renderAs, found, tableRow]
  simp only [Extract.visits, Extract.context]
  cases renderNodes standardRules context children with
  | error error => rfl
  | ok description => exact TagRule.apply_section rfl "|" ": |" "|\n"

/-- A rule with a text in front shows the text and what the rule without it shows. -/
theorem renderAs_lead {name plain lead : String} {template : Template} {extract : Extract}
    (found : table.find? name = some ⟨.literal lead :: template, extract⟩)
    (foundPlain : table.find? plain = some ⟨template, extract⟩) (tag : Tag)
    (children : List Node) :
    renderAs table context name tag children =
      (renderAs table context plain tag children).map (lead ++ ·) := by
  rw [renderAs, renderAs, found, foundPlain]
  dsimp only
  cases renderNodes table (extract.context children context) (extract.visits children) with
  | error error => rfl
  | ok rendered =>
    simp only [Except.bind, TagRule.apply, Template.fill]
    cases Template.fill (extract.values tag children context rendered) template <;> rfl

theorem renderAs_opening (tag : Tag) (children : List Node) :
    renderAs standardRules context "first-param" tag children =
      tableOpening context tag children := by
  have found : standardRules.find? "first-param" =
      some ⟨.literal tableHeader :: rowTemplate, .attributeAndBody "name"⟩ := rfl
  have foundPlain : standardRules.find? "param" =
      some ⟨rowTemplate, .attributeAndBody "name"⟩ := rfl
  rw [renderAs_lead found foundPlain, renderAs_row (Or.inl rfl), tableOpening]

/-- Three parameters have a standard rule. -/
theorem standardRules_parameters : ∀ entry ∈ standardRules, namesParameter entry.1 →
    entry.1 ∈ ["first-param", "typeparam", "param"] := by
  decide

theorem renderAs_following {tag : Tag} (parameter : namesParameter tag.name)
    (children : List Node) :
    renderAs standardRules context tag.name tag children = rowAfterParam context tag children := by
  unfold rowAfterParam
  split
  next row => exact renderAs_row row tag children
  next noRow =>
    split
    next opening => rw [opening, renderAs_opening]
    next noOpening =>
      have unknown : standardRules.find? tag.name = none := by
        cases found : standardRules.find? tag.name with
        | none => rfl
        | some rule =>
          have known := standardRules_parameters _ (mem_of_lookup found) parameter
          simp only [List.mem_cons, List.not_mem_nil, or_false] at known
          rcases known with opening | row | row
          · exact absurd opening noOpening
          · exact absurd (Or.inr row) noRow
          · exact absurd (Or.inl row) noRow
      rw [renderAs, unknown]

/-! ## Tables -/

theorem renderSiblings_opening {tag : Tag} (parameter : namesParameter tag.name)
    (free : ∀ tag ∈ previous, tag.name ≠ "param") (children rest : List Node) :
    renderSiblings standardRules context previous (.element tag children :: rest) =
      followedBy (tableOpening context tag children)
        (renderSiblings standardRules context (some tag) rest) := by
  rw [renderSiblings_cons_eq, renderNode_element, effectiveName_opening parameter free,
    renderAs_opening]
  rfl

theorem renderSiblings_following {tag last : Tag} (parameter : namesParameter tag.name)
    (follows : last.name = "param") (children rest : List Node) :
    renderSiblings standardRules context (some last) (.element tag children :: rest) =
      followedBy (rowAfterParam context tag children)
        (renderSiblings standardRules context (some tag) rest) := by
  rw [renderSiblings_cons_eq, renderNode_element, effectiveName_following parameter follows,
    renderAs_following parameter]
  rfl

/-- After a `param`, others add a row each, with the texts between them. -/
theorem renderSiblings_rows {last : Tag} (follows : last.name = "param") {nodes : List Node}
    (params : ∀ tag ∈ nodes.filterMap Node.tag?, tag.name = "param") :
    renderSiblings standardRules context (some last) nodes = tableParts context nodes := by
  induction nodes generalizing last with
  | nil => simp [tableParts, pure, Except.pure, Except.map]
  | cons node rest ih =>
    rw [tableParts_cons]
    cases node with
    | text content position =>
      rw [renderSiblings_cons_eq, renderNode_text, Node.tag?, Option.none_or, ih follows params]
      rfl
    | element tag children =>
      obtain ⟨named, later⟩ := List.forall_mem_cons.mp params
      rw [renderSiblings_following (namesParameter_of_param named) follows, ih named later,
        rowAfterParam, if_pos (Or.inl named)]
      rfl

/-- Neighbouring `param` elements, from the first of them on, with texts between them. -/
def IsParamRun (nodes : List Node) : Prop :=
  (∃ first ∈ nodes.head?, first.isNamed "param") ∧
    ∀ tag ∈ nodes.filterMap Node.tag?, tag.name = "param"

theorem IsParamRun.exists_cons {run : List Node} (params : IsParamRun run) :
    ∃ tag children rest, run = .element tag children :: rest ∧ tag.name = "param" ∧
      ∀ later ∈ rest.filterMap Node.tag?, later.name = "param" := by
  obtain ⟨⟨first, head, opens⟩, named⟩ := params
  cases run with
  | nil => cases head
  | cons node rest =>
    obtain rfl : node = first := by simpa using head
    cases node with
    | text content position => cases opens
    | element tag children =>
      obtain ⟨own, later⟩ := List.forall_mem_cons.mp named
      exact ⟨tag, children, rest, rfl, own, later⟩

theorem IsParamRun.exists_lastTag? {run : List Node} (params : IsParamRun run) :
    ∃ tag, Node.lastTag? run = some tag := by
  obtain ⟨tag, children, rest, rfl, -⟩ := params.exists_cons
  rw [Node.lastTag?_cons]
  cases Node.lastTag? rest with
  | none => exact ⟨tag, rfl⟩
  | some last => exact ⟨last, rfl⟩

/-- A run of `param` elements is one table: its head comes once, before the first row. -/
theorem renderSiblings_run {run : List Node} (params : IsParamRun run)
    (free : ∀ tag ∈ previous, tag.name ≠ "param") :
    renderSiblings standardRules context previous run =
      (tableParts context run).map (tableHeader ++ ·) := by
  obtain ⟨tag, children, rest, rfl, named, later⟩ := params.exists_cons
  rw [renderSiblings_opening (namesParameter_of_param named) free, renderSiblings_rows named later,
    tableOpening, map_append_followedBy, tableParts_cons]
  rfl

/-- **Siblings and parameter tables.** The renderings of two lists of parts, one after the other, are
that of both in one, unless the last element of the first is a `param` and the first of the second a
parameter. That parameter opens a table in the second list alone; after the `param` it is rendered
under its own name, and nothing else changes. A text between the lists is shown, and has no part in
how the rest is rendered. After parts that do not end with a `param`, a run of `param` elements is one
table with one head, and so does any other parameter open one. -/
theorem siblings_join_outside_tables (context : Option String) (xs ys : List Node) :
    (¬ (EndsWithParam xs ∧ StartsWithParameter ys) → ∀ table,
      renderNodes table context (xs ++ ys) =
        followedBy (renderNodes table context xs) (renderNodes table context ys)) ∧
    (EndsWithParam xs → ∀ texts tag children rest, ys = texts ++ .element tag children :: rest →
      (∀ text ∈ texts, text.tag? = none) → namesParameter tag.name →
      renderNodes standardRules context ys =
        followedBy (renderNodes standardRules context texts)
          (followedBy (tableOpening context tag children)
            (renderSiblings standardRules context (some tag) rest)) ∧
      renderNodes standardRules context (xs ++ ys) =
        followedBy (renderNodes standardRules context xs)
          (followedBy (renderNodes standardRules context texts)
            (followedBy (rowAfterParam context tag children)
              (renderSiblings standardRules context (some tag) rest)))) ∧
    (∀ table content position,
      renderNodes table context (xs ++ ys) =
        followedBy (renderNodes table context xs)
          (renderSiblings table context (Node.lastTag? xs) ys) ∧
      renderNodes table context (xs ++ .text content position :: ys) =
        followedBy (renderNodes table context xs)
          (followedBy (.ok (Text.collapse content))
            (renderSiblings table context (Node.lastTag? xs) ys))) ∧
    (¬ EndsWithParam xs → ∀ run, IsParamRun run →
      renderNodes standardRules context (xs ++ (run ++ ys)) =
        followedBy (renderNodes standardRules context xs)
          (followedBy ((tableParts context run).map (tableHeader ++ ·))
            (renderSiblings standardRules context (Node.lastTag? run) ys))) ∧
    (¬ EndsWithParam xs → ∀ tag children, namesParameter tag.name →
      renderNodes standardRules context (xs ++ .element tag children :: ys) =
        followedBy (renderNodes standardRules context xs)
          (followedBy (tableOpening context tag children)
            (renderSiblings standardRules context (some tag) ys))) := by
  have split (table : RuleTable) (zs : List Node) :
      renderNodes table context (xs ++ zs) =
        followedBy (renderNodes table context xs)
          (renderSiblings table context (Node.lastTag? xs) zs) := by
    rw [renderNodes, renderSiblings_append, Option.or_none]
    rfl
  have free (other : ¬ EndsWithParam xs) : ∀ tag ∈ Node.lastTag? xs, tag.name ≠ "param" :=
    fun tag last named => other ⟨tag, last, named⟩
  refine ⟨fun apart table => renderNodes_append apart, ?_, ?_, ?_, ?_⟩
  · rintro ⟨last, ends, follows⟩ texts tag children rest rfl onlyTexts parameter
    have noTag : Node.lastTag? texts = none := by
      rw [Node.lastTag?, List.filterMap_eq_nil_iff.mpr onlyTexts]
      rfl
    refine ⟨?_, ?_⟩
    · rw [renderNodes, renderSiblings_append, noTag, Option.none_or,
        renderSiblings_opening parameter (by simp)]
      rfl
    · have found : Node.lastTag? xs = some last := ends
      rw [split, found, renderSiblings_append, noTag, Option.none_or,
        renderSiblings_following parameter follows, renderSiblings_of_texts onlyTexts]
  · intro table content position
    refine ⟨split table ys, ?_⟩
    rw [split, renderSiblings_cons_eq, renderNode_text]
    rfl
  · intro other run params
    obtain ⟨last, found⟩ := params.exists_lastTag?
    rw [split, renderSiblings_append, renderSiblings_run params (free other), found, Option.some_or]
  · intro other tag children parameter
    rw [split, renderSiblings_opening parameter (free other)]

/-- Two parameters are one table, to which a type parameter adds a row. Type parameters of which none
follows a `param` open a table each. -/
theorem type_parameter_adds_a_row :
    let parameters : List Node := [.element ⟨"param", [("name", "a")], {}⟩ [.text "A" {}],
      .text " " {}, .element ⟨"param", [("name", "b")], {}⟩ []]
    let typeParameter : Node := .element ⟨"typeparam", [("name", "T")], {}⟩ []
    renderNodes standardRules none (parameters ++ [.text " " {}, typeParameter]) =
      .ok "|Name | Description |\n|-----|------|\n|a: |A|\n |b: ||\n |T: ||\n" ∧
    renderNodes standardRules none ([typeParameter] ++ [typeParameter]) =
      .ok ("|Name | Description |\n|-----|------|\n|T: ||\n" ++
        "|Name | Description |\n|-----|------|\n|T: ||\n") := by
  intro parameters typeParameter
  have blank : renderNodes standardRules none [.text " " {}] = .ok " " := by
    rw [renderNodes_text]
    exact congrArg Except.ok (by decide)
  have rows : tableParts none parameters = .ok "|a: |A|\n |b: ||\n" := by
    simp only [parameters, tableParts_cons, tablePart, tableRow, renderNodes_text, renderNodes_nil]
    exact congrArg Except.ok (by decide)
  have typeRow : tableRow none ⟨"typeparam", [("name", "T")], {}⟩ [] = .ok "|T: ||\n" := by
    rw [tableRow, renderNodes_nil]
    exact congrArg Except.ok (by decide)
  have run : IsParamRun parameters := ⟨⟨_, rfl, rfl⟩, by decide⟩
  obtain ⟨-, -, -, table, opening⟩ := siblings_join_outside_tables none [] []
  have shown : renderNodes standardRules none parameters =
      .ok "|Name | Description |\n|-----|------|\n|a: |A|\n |b: ||\n" := by
    have whole := table (by simp [EndsWithParam]) parameters run
    rw [List.nil_append, List.append_nil, rows, renderSiblings_nil, followedBy_empty,
      renderNodes_nil, empty_followedBy] at whole
    exact whole.trans (congrArg Except.ok (by decide))
  have shownAlone : renderNodes standardRules none [typeParameter] =
      .ok "|Name | Description |\n|-----|------|\n|T: ||\n" := by
    have whole := opening (by simp [EndsWithParam]) ⟨"typeparam", [("name", "T")], {}⟩ [] (by decide)
    rw [List.nil_append, tableOpening, typeRow, renderSiblings_nil, followedBy_empty,
      renderNodes_nil, empty_followedBy] at whole
    exact whole.trans (congrArg Except.ok (by decide))
  constructor
  · obtain ⟨-, inside, -⟩ :=
      siblings_join_outside_tables none parameters [.text " " {}, typeParameter]
    obtain ⟨-, joined⟩ := inside ⟨_, rfl, rfl⟩ [.text " " {}] ⟨"typeparam", [("name", "T")], {}⟩ [] []
      rfl (by simp [Node.tag?]) (by decide)
    rw [joined, shown, blank, rowAfterParam, if_pos (Or.inr rfl), typeRow, renderSiblings_nil]
    exact congrArg Except.ok (by decide)
  · obtain ⟨apart, -⟩ := siblings_join_outside_tables none [typeParameter] [typeParameter]
    have noParam : ¬ (EndsWithParam [typeParameter] ∧ StartsWithParameter [typeParameter]) := by
      rintro ⟨⟨tag, last, named⟩, -⟩
      obtain rfl : _ = tag := Option.some.inj last
      revert named
      decide
    rw [apart noParam standardRules, shownAlone]
    exact congrArg Except.ok (by decide)

/-- An element that bears the name of the rule for the head of a table is not unknown after a
`param`: it opens a table once more. -/
theorem head_is_shown_after_param :
    let shown := renderNodes standardRules none
      ([.element ⟨"param", [], {}⟩ []] ++ [.element ⟨"first-param", [], {}⟩ []])
    shown = .ok ("|Name | Description |\n|-----|------|\n|: ||\n" ++
      "|Name | Description |\n|-----|------|\n|: ||\n") ∧
    shown ≠ .error (.unknownTag ⟨"first-param", {}⟩) := by
  have row (name : String) : tableRow none ⟨name, [], {}⟩ [] = .ok "|: ||\n" := by
    rw [tableRow, renderNodes_nil]
    rfl
  intro shown
  have tables : shown = .ok ("|Name | Description |\n|-----|------|\n|: ||\n" ++
      "|Name | Description |\n|-----|------|\n|: ||\n") := by
    unfold shown
    rw [renderNodes, List.singleton_append, renderSiblings_opening (by decide) (by simp),
      renderSiblings_following (by decide) rfl, rowAfterParam, if_neg (by decide), if_pos rfl,
      tableOpening, tableOpening, row, row, renderSiblings_nil]
    exact congrArg Except.ok (by decide)
  refine ⟨tables, ?_⟩
  rw [tables]
  rintro ⟨⟩

end MemberDocs.Markdown
