import MemberDocs.Proofs.Markdown.Step

/-! # What a rendering depends on

Of an element a rendering reads its name and its place, the attributes by which it is looked up
(`lookupKeys`) and those that its rule shows (`Extract.keys`), and of what is below it the parts that are
rendered, its text if the rule shows that as it stands (`Extract.ReadsText`), or the assembly name of a
document. Trees that agree in this (`Agree`) have the same Markdown or the same fault
(`rendering_depends_on_agreed_parts`).
-/

namespace MemberDocs.Markdown

/-! ## What is read of an element -/

/-- The attributes by which an element of a name is looked up. -/
def lookupKeys (name : String) : List String :=
  if name = "member" then ["name"]
  else if name = "see" then ["langword", "cref"]
  else []

/-- The attributes that an extract shows. -/
def Extract.keys : Extract → List String
  | .attributeAndBody key | .attributeAlone key => [key]
  | .member => ["name"]
  | .anchor | .keyword => ["cref"]
  | .reference => ["cref", "href"]
  | .code => ["lang"]
  | .body | .document | .nothing => []

/-- The extract shows all character data below an element as it stands: code does, and a keyword or a
reference to which no attribute gives a name. -/
def Extract.ReadsText (tag : Tag) : Extract → Prop
  | .code => True
  | .keyword => tag.attribute? "cref" = none
  | .reference => tag.attribute? "cref" = none ∧ tag.attribute? "href" = none
  | _ => False

/-- The attributes that are read at all. -/
def readAttributeNames : List String := ["name", "cref", "href", "langword", "lang"]

theorem lookupKeys_subset (name : String) : lookupKeys name ⊆ readAttributeNames := by
  unfold lookupKeys
  split
  next => decide
  next => split <;> decide

theorem standardRules_keys : ∀ entry ∈ standardRules, entry.2.extract.keys ⊆ readAttributeNames := by
  decide

/-- The first head has the same values under the keys as the second one. -/
def SameUnder (keys : List String) (first second : Tag) : Prop :=
  ∀ key ∈ keys, first.attribute? key = second.attribute? key

instance (keys : List String) (first second : Tag) : Decidable (SameUnder keys first second) :=
  inferInstanceAs (Decidable (∀ key ∈ keys, first.attribute? key = second.attribute? key))

/-- Elements are looked up alike: they have the same name and place, and the same values of the
attributes by which an element of this name is looked up. -/
structure SameHead (first second : Tag) : Prop where
  name : first.name = second.name
  position : first.position = second.position
  lookedUp : SameUnder (lookupKeys first.name) first second

variable {table : RuleTable} {previous previous' : Option Tag} {tag tag' : Tag}
  {children children' : List Node} {rule : TagRule}

/-- Elements that are looked up alike, after elements of the same name, go by the same name. -/
theorem SameHead.effectiveName_eq (head : SameHead tag tag')
    (follow : previous.map Tag.name = previous'.map Tag.name) :
    effectiveName tag previous = effectiveName tag' previous' := by
  have after : previous.all (·.name ≠ "param") = previous'.all (·.name ≠ "param") := by
    have both := congrArg (Option.all (· ≠ "param")) follow
    simpa only [Option.all_map] using both
  have read := head.lookedUp
  unfold effectiveName
  rw [← head.name, after]
  by_cases isMember : tag.name = "member"
  · rw [if_pos isMember, if_pos isMember, read "name" (by simp [lookupKeys, isMember])]
  · rw [if_neg isMember, if_neg isMember]
    by_cases isSee : tag.name = "see"
    · have keys : lookupKeys tag.name = ["langword", "cref"] := by simp [lookupKeys, isSee]
      rw [if_pos isSee, if_pos isSee, read "langword" (by simp [keys]),
        read "cref" (by simp [keys])]
    · rw [if_neg isSee, if_neg isSee]

/-- The values of an extract come from what it reads. -/
theorem Extract.values_congr {extract : Extract} (keys : SameUnder extract.keys tag tag')
    (text : extract.ReadsText tag → Node.textContentAll children = Node.textContentAll children')
    (assembly : extract = .document → assemblyName children = assemblyName children')
    (outer : Option String) (rendered : String) :
    extract.values tag children outer rendered = extract.values tag' children' outer rendered := by
  have shown {key : String} (listed : key ∈ extract.keys) :
      tag.attributeOrEmpty key = tag'.attributeOrEmpty key :=
    congrArg (Option.getD · "") (keys key listed)
  cases extract with
  | body | nothing => rfl
  | document => simp only [values, assembly rfl]
  | attributeAndBody key | attributeAlone key => simp only [values, shown (List.mem_singleton_self key)]
  | member => simp only [values, shown (List.mem_singleton_self "name")]
  | anchor => simp only [values, shown (List.mem_singleton_self "cref")]
  | code => simp only [values, shown (List.mem_singleton_self "lang"), text trivial]
  | keyword =>
    have cref := keys "cref" (List.mem_singleton_self _)
    cases found : tag.attribute? "cref" with
    | none => simp only [values, ← cref, found, text found]
    | some target => simp only [values, ← cref, found, Option.getD_some]
  | reference =>
    have cref := keys "cref" (by decide)
    have href := keys "href" (by decide)
    cases found : tag.attribute? "cref" with
    | some target => simp only [values, referenceLabel, ← cref, found]
    | none =>
      cases linked : tag.attribute? "href" with
      | some target => simp only [values, referenceLabel, ← cref, ← href, found, linked]
      | none => simp only [values, referenceLabel, ← cref, ← href, found, linked, text ⟨found, linked⟩]

theorem Extract.not_readsText_of_opensBody {extract : Extract} (opens : extract.opensBody)
    (tag : Tag) : ¬ extract.ReadsText tag := by
  cases extract <;> simp_all [opensBody, ReadsText]

theorem Extract.context_of_opensBody {extract : Extract} (opens : extract.opensBody)
    (children : List Node) (outer : Option String) : extract.context children outer = outer := by
  cases extract <;> simp_all [opensBody, context]

/-! ## Agreement -/

mutual

/-- Two parts of trees agree in what is read of them, under a table of rules and after `previous`. -/
inductive Agree (table : RuleTable) : Option Tag → Node → Node → Prop
  | text (previous : Option Tag) (content : String) (position position' : Position) :
      Agree table previous (.text content position) (.text content position')
  /-- Nothing is read below an element without a rule. -/
  | unknown {previous : Option Tag} {tag tag' : Tag} (children children' : List Node)
      (head : SameHead tag tag') (noRule : table.find? (effectiveName tag previous) = none) :
      Agree table previous (.element tag children) (.element tag' children')
  /-- If a rule shows the body, the children agree. -/
  | body {previous : Option Tag} {tag tag' : Tag} {children children' : List Node} {rule : TagRule}
      (head : SameHead tag tag') (found : table.find? (effectiveName tag previous) = some rule)
      (rendersBody : rule.RendersBody) (keys : SameUnder rule.extract.keys tag tag')
      (parts : AgreeAll table none children children') :
      Agree table previous (.element tag children) (.element tag' children')
  /-- Of documents, the assembly names and the members agree. -/
  | document {previous : Option Tag} {tag tag' : Tag} {children children' : List Node}
      {rule : TagRule} (head : SameHead tag tag')
      (found : table.find? (effectiveName tag previous) = some rule)
      (rendersMembers : rule.RendersMembers)
      (assembly : assemblyName children = assemblyName children')
      (parts : AgreeAll table none (documentMembers children) (documentMembers children')) :
      Agree table previous (.element tag children) (.element tag' children')
  /-- If a rule opens nothing, only the text can count. -/
  | closed {previous : Option Tag} {tag tag' : Tag} {children children' : List Node}
      {rule : TagRule} (head : SameHead tag tag')
      (found : table.find? (effectiveName tag previous) = some rule)
      (noBody : ¬ rule.RendersBody) (noMembers : ¬ rule.RendersMembers)
      (keys : SameUnder rule.extract.keys tag tag')
      (text : rule.extract.ReadsText tag →
        Node.textContentAll children = Node.textContentAll children') :
      Agree table previous (.element tag children) (.element tag' children')

/-- Neighbouring parts agree one by one. -/
inductive AgreeAll (table : RuleTable) : Option Tag → List Node → List Node → Prop
  | nil (previous : Option Tag) : AgreeAll table previous [] []
  | cons {previous : Option Tag} {node node' : Node} {rest rest' : List Node}
      (first : Agree table previous node node')
      (others : AgreeAll table (node.tag?.or previous) rest rest') :
      AgreeAll table previous (node :: rest) (node' :: rest')

end

/-- Parts that agree are followed alike. -/
theorem Agree.tag?_name {node node' : Node} (agree : Agree table previous node node') :
    node.tag?.map Tag.name = node'.tag?.map Tag.name := by
  cases agree with
  | text => rfl
  | unknown _ _ head | body head | document head | closed head => exact congrArg some head.name

theorem follow_or {first second : Option Tag} (here : first.map Tag.name = second.map Tag.name)
    (before : previous.map Tag.name = previous'.map Tag.name) :
    (first.or previous).map Tag.name = (second.or previous').map Tag.name := by
  cases first with
  | none =>
    cases second with
    | none => exact before
    | some tag => cases here
  | some tag =>
    cases second with
    | none => cases here
    | some tag' => exact here

/-- Elements with the same rule have the same Markdown, if the same is rendered below them. -/
theorem renderNode_congr_of_rule (context : Option String)
    (found : table.find? (effectiveName tag previous) = some rule)
    (same : effectiveName tag previous = effectiveName tag' previous')
    (values : ∀ rendered, rule.extract.values tag children context rendered =
      rule.extract.values tag' children' context rendered)
    (below : renderNodes table (rule.extract.context children context)
        (rule.extract.visits children) =
      renderNodes table (rule.extract.context children' context) (rule.extract.visits children')) :
    renderNode table context previous (.element tag children) =
      renderNode table context previous' (.element tag' children') := by
  have applied : rule.apply tag children context = rule.apply tag' children' context := by
    funext rendered
    rw [TagRule.apply, TagRule.apply, values]
  rw [renderNode_of_rule children found, renderNode_of_rule children' (same ▸ found), below, applied]

mutual

/-- Parts that agree are rendered alike. -/
theorem Agree.renderNode_eq (standard : table.FromStandard) {node node' : Node}
    {previous previous' : Option Tag} (context : Option String) :
    Agree table previous node node' → previous.map Tag.name = previous'.map Tag.name →
      renderNode table context previous node = renderNode table context previous' node'
  | .text _ content _ _, _ => by rw [renderNode_text, renderNode_text]
  | .unknown children children' head noRule, follow => by
    have same := head.effectiveName_eq follow
    rw [renderNode_of_unknown children noRule, renderNode_of_unknown children' (same ▸ noRule), same,
      head.position]
  | .body head found rendersBody keys parts, follow => by
    have opens := rendersBody.opensBody
    refine renderNode_congr_of_rule context found (head.effectiveName_eq follow)
      (Extract.values_congr keys (fun reads => ?_) (fun isDocument => ?_) context) ?_
    · exact absurd reads (Extract.not_readsText_of_opensBody opens _)
    · simp [isDocument, Extract.opensBody] at opens
    · rw [Extract.visits_of_opensBody opens, Extract.visits_of_opensBody opens,
        Extract.context_of_opensBody opens, Extract.context_of_opensBody opens]
      exact parts.renderSiblings_eq standard context rfl
  | .document head found rendersMembers assembly parts, follow => by
    have isDocument := rendersMembers.extract_eq
    refine renderNode_congr_of_rule context found (head.effectiveName_eq follow)
      (Extract.values_congr ?_ (fun reads => ?_) (fun _ => assembly) context) ?_
    · simp [isDocument, Extract.keys, SameUnder]
    · simp [isDocument, Extract.ReadsText] at reads
    · rw [isDocument]
      simp only [Extract.context, Extract.visits, ← assembly]
      exact parts.renderSiblings_eq standard _ rfl
  | .closed head found noBody noMembers keys text, follow => by
    obtain ⟨name, original⟩ := standard _ _ found
    have closed := Bool.eq_false_iff.mpr (mt (TagRule.scope_of_standard original).1 noBody)
    have notDocument := mt (TagRule.scope_of_standard original).2 noMembers
    refine renderNode_congr_of_rule context found (head.effectiveName_eq follow)
      (Extract.values_congr keys text (fun isDocument => absurd isDocument notDocument) context) ?_
    rw [Extract.visits_of_closed closed notDocument, Extract.visits_of_closed closed notDocument,
      renderNodes, renderNodes, renderSiblings_nil, renderSiblings_nil]

theorem AgreeAll.renderSiblings_eq (standard : table.FromStandard) {nodes nodes' : List Node}
    {previous previous' : Option Tag} (context : Option String) :
    AgreeAll table previous nodes nodes' → previous.map Tag.name = previous'.map Tag.name →
      renderSiblings table context previous nodes = renderSiblings table context previous' nodes'
  | .nil _, _ => by rw [renderSiblings_nil, renderSiblings_nil]
  | .cons first others, follow => by
    rw [renderSiblings_cons, renderSiblings_cons, first.renderNode_eq standard context follow,
      others.renderSiblings_eq standard context (follow_or first.tag?_name follow)]

end

/-! ## What is not seen -/

theorem SameHead.refl (tag : Tag) : SameHead tag tag := ⟨rfl, rfl, fun _ _ => rfl⟩

theorem AgreeAll.refl {nodes : List Node}
    (each : ∀ node ∈ nodes, ∀ previous, Agree table previous node node) (previous : Option Tag) :
    AgreeAll table previous nodes nodes := by
  induction nodes generalizing previous with
  | nil => exact .nil previous
  | cons node rest ih =>
    exact .cons (each node List.mem_cons_self previous)
      (ih (fun part member => each part (List.mem_cons_of_mem node member)) _)

/-- Heads agree on the same children, if they differ in attributes that are not read. -/
theorem agree_of_attributes (standard : table.FromStandard) (name : tag.name = tag'.name)
    (position : tag.position = tag'.position) (read : SameUnder readAttributeNames tag tag')
    (same : ∀ (extract : Extract), ∀ node ∈ extract.visits children, ∀ previous,
      Agree table previous node node) :
    Agree table previous (.element tag children) (.element tag' children) := by
  have head : SameHead tag tag' := ⟨name, position, fun key listed =>
    read key (lookupKeys_subset tag.name listed)⟩
  cases found : table.find? (effectiveName tag previous) with
  | none => exact .unknown children children head found
  | some rule =>
    obtain ⟨original, there⟩ := standard _ _ found
    have keys : SameUnder rule.extract.keys tag tag' := fun key listed =>
      read key (standardRules_keys _ (mem_of_lookup there) listed)
    by_cases rendersBody : rule.RendersBody
    · have visited := Extract.visits_of_opensBody rendersBody.opensBody children
      exact .body head found rendersBody keys
        (.refl (fun node member => same rule.extract node (visited.symm ▸ member)) none)
    by_cases rendersMembers : rule.RendersMembers
    · exact .document head found rendersMembers rfl (.refl (same .document) none)
    · exact .closed head found rendersBody rendersMembers keys fun _ => rfl

theorem Agree.refl (standard : table.FromStandard) (node : Node) (previous : Option Tag) :
    Agree table previous node node := by
  induction node using Node.visitInduction generalizing previous with
  | text content position => exact .text previous content position position
  | element tag children ih => exact agree_of_attributes standard rfl rfl (fun _ _ => rfl) ih

/-- Whatever is below an element agrees, if its rule shows nothing of it or the same text. -/
theorem agree_of_closed (found : table.find? (effectiveName tag previous) = some rule)
    (closed : rule.extract.opensBody = false) (notDocument : rule.extract ≠ .document)
    (text : rule.extract.ReadsText tag →
      Node.textContentAll children = Node.textContentAll children') :
    Agree table previous (.element tag children) (.element tag children') := by
  refine .closed (.refl tag) found (fun opens => ?_) (fun isDocument => ?_) (fun _ _ => rfl) text
  · simp [opens.opensBody] at closed
  · exact notDocument isDocument.extract_eq

/-- The names of the standard rules that show nothing of what is below an element. -/
def silentRuleNames : List String := ["none", "inheritdoc", "typeparamref", "see-langword"]

/-- The extract takes nothing from what is below an element. -/
def Extract.isSilent : Extract → Bool
  | .nothing | .attributeAlone _ => true
  | _ => false

theorem standardRules_silent : ∀ entry ∈ standardRules, entry.1 ∈ silentRuleNames →
    entry.2.extract.isSilent := by
  decide

theorem agree_of_silent (found : table.find? (effectiveName tag previous) = some rule)
    (silent : rule.extract.isSilent) :
    Agree table previous (.element tag children) (.element tag children') := by
  obtain ⟨template, extract⟩ := rule
  refine agree_of_closed found ?_ ?_ ?_ <;>
    cases extract <;> simp_all [Extract.isSilent, Extract.opensBody, Extract.ReadsText]

theorem standardRules_code : (standardRules.find? "code").map TagRule.extract = some .code := rfl

/-- **What a rendering depends on.** Trees that agree in their reached elements, in the texts and
attributes that their rules show, in the text of those that are shown as they stand and in the assembly
names of documents have the same Markdown or the same fault. So nothing is seen of what is below an
element with a silent rule, of the markup in code, of a document besides its assembly name and its
members, and of other attributes. -/
theorem rendering_depends_on_agreed_parts (standard : table.FromStandard) :
    (∀ first second, Agree table none first second → ∀ context,
      renderMarkdown table context first = renderMarkdown table context second) ∧
    ∀ previous tag children children',
      (∀ name ∈ silentRuleNames,
        table.find? (effectiveName tag previous) = standardRules.find? name →
          Agree table previous (.element tag children) (.element tag children')) ∧
      (table.find? (effectiveName tag previous) = standardRules.find? "code" →
        Node.textContentAll children = Node.textContentAll children' →
          Agree table previous (.element tag children) (.element tag children')) ∧
      (table.find? (effectiveName tag previous) = standardRules.find? "doc" →
        assemblyName children = assemblyName children' →
          AgreeAll table none (documentMembers children) (documentMembers children') →
            Agree table previous (.element tag children) (.element tag children')) ∧
      ∀ tag', tag.name = tag'.name → tag.position = tag'.position →
        SameUnder readAttributeNames tag tag' →
          Agree table previous (.element tag children) (.element tag' children) := by
  refine ⟨fun first second agree context => ?_, fun previous tag children children' => ⟨?_, ?_, ?_, ?_⟩⟩
  · rw [renderMarkdown, renderMarkdown, agree.renderNode_eq standard context rfl]
  · intro name silent found
    cases there : standardRules.find? name with
    | none => exact .unknown children children' (.refl tag) (found.trans there)
    | some rule =>
      exact agree_of_silent (found.trans there) (standardRules_silent _ (mem_of_lookup there) silent)
  · intro found text
    obtain ⟨rule, there, code⟩ := Option.map_eq_some_iff.mp standardRules_code
    exact agree_of_closed (found.trans there) (by simp [code, Extract.opensBody]) (by simp [code])
      fun _ => text
  · intro found assembly parts
    have there : standardRules.find? "doc" = some _ := rfl
    exact .document (.refl tag) (found.trans there) there assembly parts
  · intro tag' name position read
    exact agree_of_attributes standard name position read fun _ node _ previous =>
      .refl standard node previous

/-- A document, and one with other parts, other attributes, other markup in its code, and something
below a keyword and in a member of an unknown kind. -/
theorem changed_document_is_rendered_alike :
    let document (rest : List Node) (name code keyword unkind : List Node)
        (marks : Attributes) : Node :=
      .element ⟨"doc", marks, ⟨1, 1⟩⟩
        (.element ⟨"assembly", [], ⟨2, 1⟩⟩ (.element ⟨"name", [], ⟨2, 11⟩⟩ name :: rest) ::
          .element ⟨"members", marks, ⟨3, 1⟩⟩
            (rest ++ [.element ⟨"member", ("name", "T:Lib.Shape") :: marks, ⟨4, 1⟩⟩
              [.text "Draws " ⟨5, 1⟩, .element ⟨"code", [("lang", "cs")], ⟨5, 7⟩⟩ code,
                .element ⟨"see", ("langword", "null") :: marks, ⟨6, 1⟩⟩ keyword],
              .element ⟨"member", [("name", "N:Lib")], ⟨7, 1⟩⟩ unkind]) :: rest)
    let plain := document [] [.text "Lib" ⟨2, 17⟩] [.text "a b" ⟨5, 22⟩] [] [] []
    let changed := document [.element ⟨"bogus", [], ⟨8, 1⟩⟩ []]
      [.text "Li" ⟨2, 17⟩, .element ⟨"i", [], ⟨2, 19⟩⟩ [.text "b" ⟨2, 22⟩]]
      [.text "a " ⟨5, 22⟩, .element ⟨"b", [], ⟨5, 24⟩⟩ [.text "b" ⟨5, 27⟩]]
      [.text "nothing" ⟨6, 22⟩] [.element ⟨"bogus", [], ⟨7, 23⟩⟩ []] [("id", "s1")]
    standardRules.FromStandard ∧ Agree standardRules none plain changed ∧
      renderMarkdown standardRules none plain = renderMarkdown standardRules none changed := by
  intro document plain changed
  have standard := RuleTable.fromStandard_standardRules
  have head {tag tag' : Tag} (name : tag.name = tag'.name) (position : tag.position = tag'.position)
      (read : SameUnder readAttributeNames tag tag') : SameHead tag tag' :=
    ⟨name, position, fun key listed => read key (lookupKeys_subset tag.name listed)⟩
  have agree : Agree standardRules none plain changed := by
    refine .document (head rfl rfl (by decide)) rfl rfl (by decide) ?_
    refine .cons (.body (head rfl rfl (by decide)) rfl ⟨"type", by decide, rfl⟩ (by decide) ?_)
      (.cons (agree_of_silent rfl rfl) (.nil _))
    refine .cons (.text _ _ _ _) (.cons ?_ (.cons ?_ (.nil _)))
    · exact agree_of_closed rfl rfl (by decide) fun _ => by decide
    · exact .closed (head rfl rfl (by decide)) rfl (by unfold TagRule.RendersBody; decide)
        (by unfold TagRule.RendersMembers; decide) (by decide) False.elim
  exact ⟨standard, agree, (rendering_depends_on_agreed_parts standard).1 plain changed agree none⟩

end MemberDocs.Markdown
