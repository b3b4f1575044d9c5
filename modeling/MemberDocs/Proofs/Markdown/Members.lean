import MemberDocs.Proofs.Markdown.Lookup
import MemberDocs.Proofs.Markdown.Step
import MemberDocs.Proofs.Text.LineBreak

/-! # Documents and their members

A document is rendered member by member. Nothing of what stands around a member has a part in it but
the assembly name that the document states, so a document is the heading with this name and the
members as each is rendered alone (`document_renders_its_members`). The members are finished one by
one in this reading and all together in the rendering; runs of line breaks that reach over the border
of two members come out the same.
-/

namespace MemberDocs

theorem Node.child?_eq_find? (name : String) (nodes : List Node) :
    Node.child? name nodes = (Node.elements nodes).find? (·.tag.name = name) := by
  induction nodes with
  | nil => rfl
  | cons node rest ih =>
    cases node with
    | text content position =>
      rw [child?, ih]
      rfl
    | element tag children =>
      rw [child?, ih]
      by_cases same : tag.name = name <;> simp [elements, element?, same]

theorem Node.filter_isNamed_eq (name : String) (nodes : List Node) :
    nodes.filter (Node.isNamed name) =
      ((Node.elements nodes).filter (·.tag.name = name)).map Element.toNode := by
  induction nodes with
  | nil => rfl
  | cons node rest ih =>
    cases node with
    | text content position =>
      rw [List.filter_cons_of_neg (by simp [isNamed]), ih]
      rfl
    | element tag children =>
      have cons : Node.elements (.element tag children :: rest) =
          ⟨tag, children⟩ :: Node.elements rest := rfl
      by_cases same : tag.name = name
      · rw [List.filter_cons_of_pos (by simpa [isNamed] using same), ih, cons,
          List.filter_cons_of_pos (by simpa using same)]
        rfl
      · rw [List.filter_cons_of_neg (by simpa [isNamed] using same), ih, cons,
          List.filter_cons_of_neg (by simpa using same)]

end MemberDocs

namespace MemberDocs.Markdown

variable {table : RuleTable} {context : Option String}

/-- A member is looked up under the same name wherever it stands. -/
theorem renderNode_member {member : Element} (isMember : member.tag.name = "member")
    (previous : Option Tag) :
    renderNode table context previous member.toNode = renderNode table context none member.toNode := by
  have lookup : effectiveName member.tag previous = effectiveName member.tag none := by
    simp [effectiveName, isMember]
  unfold Element.toNode
  cases found : table.find? (effectiveName member.tag none) with
  | none =>
    rw [renderNode_of_unknown _ found, renderNode_of_unknown _ (lookup ▸ found), lookup]
  | some rule =>
    rw [renderNode_of_rule _ found, renderNode_of_rule _ (lookup ▸ found)]

/-- Members are rendered each for itself. -/
theorem renderSiblings_members {members : List Element}
    (areMembers : ∀ member ∈ members, member.tag.name = "member") (previous : Option Tag) :
    renderSiblings table context previous (members.map Element.toNode) =
      (members.mapM fun member => renderNode table context none member.toNode).map String.join := by
  induction members generalizing previous with
  | nil =>
    rw [List.map_nil, renderSiblings_nil]
    rfl
  | cons member rest ih =>
    rw [List.map_cons, renderSiblings_cons, mapM_cons_eq,
      renderNode_member (areMembers member List.mem_cons_self),
      ih fun other later => areMembers other (List.mem_cons_of_mem member later)]
    cases renderNode table context none member.toNode with
    | error error => rfl
    | ok text =>
      cases rest.mapM fun member => renderNode table context none member.toNode with
      | error error => rfl
      | ok texts => simp [Except.bind, Except.map, String.join_cons]

/-- A document is its heading and its members, as they are before the line breaks are finished. -/
theorem renderNode_document {tag : Tag} (isDocument : tag.name = "doc") (children : List Node)
    {members : List Element} (areMembers : ∀ member ∈ members, member.tag.name = "member")
    (parts : documentMembers children = members.map Element.toNode) (previous : Option Tag) :
    renderNode standardRules context previous (.element tag children) =
      (members.mapM fun member =>
          renderNode standardRules (some (assemblyName children)) none member.toNode).map
        fun texts => "# " ++ assemblyName children ++ " #\n\n" ++ String.join texts ++ "\n\n" := by
  have lookup : effectiveName tag previous = "doc" := by
    rw [effectiveName_of_plain previous (by simp [isDocument]) (by simp [isDocument])
      (by rw [isDocument]; decide), isDocument]
  have found : standardRules.find? (effectiveName tag previous) = some
      ⟨[.literal "# ", .slot 0, .literal " #\n\n", .slot 1, .literal "\n\n"], .document⟩ := by
    rw [lookup]
    rfl
  rw [renderNode_of_section children found fun _ => rfl, Extract.visits, parts, renderNodes,
    renderSiblings_members areMembers, Extract.context]
  cases members.mapM fun member =>
      renderNode standardRules (some (assemblyName children)) none member.toNode with
  | error error => rfl
  | ok texts => rfl

/-- A member without a known kind is rendered as nothing. -/
theorem renderMarkdown_of_no_kind {member : Element} (isMember : member.tag.name = "member")
    (noKind : (member.tag.attribute? "name").bind MemberKind.ofIdentifier? = none) :
    renderMarkdown standardRules context member.toNode = .ok "" := by
  have lookup : effectiveName member.tag none = "none" := by
    simp [effectiveName, isMember, noKind]
  have found : standardRules.find? (effectiveName member.tag none) = some ⟨[], .nothing⟩ := by
    rw [lookup]
    rfl
  rw [renderMarkdown, Element.toNode, renderNode_of_rule _ found, Extract.visits, renderNodes,
    renderSiblings_nil]
  rfl

/-- **Documents.** A document is rendered as its heading and its members, each as it is rendered
alone under the assembly name of the document, with the line breaks finished once more; the first
member that cannot be rendered gives its error. The context from outside has no part in it, members
without a known kind are nothing, and no three line breaks in a row are left. -/
theorem document_renders_its_members {tag : Tag} (isDocument : tag.name = "doc")
    (children : List Node) (context : Option String) :
    let assembly := (((Node.elements children).find? (·.tag.name = "assembly")).bind fun e =>
      (Node.elements e.children).find? (·.tag.name = "name")).elim "" Element.textContent
    let members := ((Node.elements children).find? (·.tag.name = "members")).elim [] fun e =>
      (Node.elements e.children).filter (·.tag.name = "member")
    let render (member : Element) := renderMarkdown standardRules (some assembly) member.toNode
    (∀ texts, List.Forall₂ (fun member text => render member = .ok text) members texts →
      renderMarkdown standardRules context (.element tag children) =
        .ok (Text.squeeze ("# " ++ assembly ++ " #\n\n" ++ String.join texts ++ "\n\n"))) ∧
    (∀ before member after error, members = before ++ member :: after →
      (∀ earlier ∈ before, ∃ text, render earlier = .ok text) → render member = .error error →
      renderMarkdown standardRules context (.element tag children) = .error error) ∧
    (∀ member ∈ members, (member.tag.attribute? "name").bind MemberKind.ofIdentifier? = none →
      render member = .ok "") ∧
    (∀ outside, renderMarkdown standardRules outside (.element tag children) =
      renderMarkdown standardRules context (.element tag children)) ∧
    ∀ markdown, renderMarkdown standardRules context (.element tag children) = .ok markdown →
      ¬ ['\n', '\n', '\n'] <:+: markdown.toList := by
  intro assembly members render
  have assemblyEq : assemblyName children = assembly := by
    simp only [assemblyName, Node.child?_eq_find?, assembly]
    cases (Node.elements children).find? (·.tag.name = "assembly") with
    | none => rfl
    | some e =>
      simp only [Option.bind_some]
      cases (Node.elements e.children).find? (·.tag.name = "name") <;> rfl
  have parts : documentMembers children = members.map Element.toNode := by
    simp only [documentMembers, Node.child?_eq_find?, members]
    cases (Node.elements children).find? (·.tag.name = "members") with
    | none => rfl
    | some e => exact Node.filter_isNamed_eq "member" e.children
  have areMembers : ∀ member ∈ members, member.tag.name = "member" := by
    intro member listed
    simp only [members] at listed
    cases found : (Node.elements children).find? (·.tag.name = "members") with
    | none => simp [found] at listed
    | some e =>
      rw [found] at listed
      simpa using (List.mem_filter.mp listed).2
  have whole (outside : Option String) :
      renderMarkdown standardRules outside (.element tag children) =
        (members.mapM render).map fun texts =>
          Text.squeeze ("# " ++ assembly ++ " #\n\n" ++ String.join texts ++ "\n\n") := by
    simp only [render, renderMarkdown]
    rw [mapM_map_right, renderNode_document isDocument children areMembers parts, assemblyEq]
    cases members.mapM fun member =>
        renderNode standardRules (some assembly) none member.toNode with
    | error error => rfl
    | ok texts =>
      exact congrArg Except.ok (Text.squeeze_around_join _ _ texts).symm
  refine ⟨?_, ?_, ?_, ?_, ?_⟩
  · intro texts rendered
    rw [whole, mapM_of_forall₂ rendered]
    rfl
  · intro before member after error split earlier failed
    rw [whole, split, mapM_of_first_error earlier failed]
    rfl
  · intro member listed noKind
    exact renderMarkdown_of_no_kind (areMembers member listed) noKind
  · intro outside
    rw [whole, whole]
  · intro markdown rendered
    unfold renderMarkdown at rendered
    cases node : renderNode standardRules context none (.element tag children) with
    | error error => simp [node, Except.map] at rendered
    | ok text =>
      obtain rfl : Text.squeeze text = markdown := by simpa [node, Except.map] using rendered
      exact Text.not_infix_squeeze text

/-- The member of an unknown kind is nothing, even with a tag that has no rule. -/
theorem document_with_two_members :
    let children : List Node :=
      [.element ⟨"assembly", [], {}⟩ [.element ⟨"name", [], {}⟩ [.text "Lib" {}]],
        .element ⟨"members", [], {}⟩
          [.element ⟨"member", [("name", "T:Lib.Shape")], {}⟩
              [.element ⟨"summary", [], {}⟩ [.text "A\nshape" {}]],
            .text "\n" {},
            .element ⟨"member", [("name", "N:Lib")], {}⟩ [.element ⟨"bogus", [], {}⟩ []]]]
    (⟨"doc", [], {}⟩ : Tag).name = "doc" ∧
      renderMarkdown standardRules (some "Other") (.element ⟨"doc", [], {}⟩ children) =
        .ok "# Lib #\n\n## Type Shape\n\nA shape\n\n---\n\n" := by
  intro children
  obtain ⟨whole, -⟩ := @document_renders_its_members ⟨"doc", [], {}⟩ rfl children
    (some "Other")
  refine ⟨rfl, (whole ["## Type Shape\n\nA shape\n\n---\n", ""] (.cons ?_ (.cons ?_ .nil))).trans ?_⟩
  · exact toOption_eq_some_iff.mp (by decide +kernel)
  · exact toOption_eq_some_iff.mp (by decide +kernel)
  · exact congrArg Except.ok (by decide +kernel)

end MemberDocs.Markdown
