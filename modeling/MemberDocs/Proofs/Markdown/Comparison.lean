import MemberDocs.Proofs.Markdown.Lookup
import MemberDocs.Proofs.Markdown.ParameterTables
import MemberDocs.Proofs.Markdown.UnknownTags

/-! # Comparing two renderings

Two renderings of a tree, under two tables, in two contexts, or of the tree and a changed one, are
compared part by part. A rule opens the children of its element, the members of a document or
nothing (`TagRule.visits_cases`), and what is reached from a part that is opened is reached from the
element (`Reached.of_opened`). A relation that is kept when texts are written one after the other
holds of neighbouring parts if it holds of each of them (`KeptByJoining.renderSiblings`,
`KeptByJoining.renderNodes`). Each comparison is then an induction over what is visited, with one
step for an element.
-/

namespace MemberDocs

/-- A place among the parts that are kept is one among all parts, with the same kept parts before.
-/
theorem exists_place_of_filter {α : Type} {kept : α → Bool} {parts : List α} {k : Nat} {part : α}
    (found : (parts.filter kept)[k]? = some part) :
    ∃ j : Nat, parts[j]? = some part ∧ kept part ∧
      (parts.take j).filter kept = (parts.filter kept).take k := by
  induction parts generalizing k with
  | nil => cases found
  | cons first rest ih =>
    by_cases isKept : kept first
    · rw [List.filter_cons_of_pos isKept] at found ⊢
      cases k with
      | zero =>
        obtain rfl : first = part := by simpa using found
        exact ⟨0, rfl, isKept, rfl⟩
      | succ k =>
        obtain ⟨j, place, own, before⟩ := ih (by simpa using found)
        refine ⟨j + 1, place, own, ?_⟩
        rw [List.take_succ_cons, List.filter_cons_of_pos isKept, before, List.take_succ_cons]
    · rw [List.filter_cons_of_neg isKept] at found ⊢
      obtain ⟨j, place, own, before⟩ := ih found
      refine ⟨j + 1, place, own, ?_⟩
      rw [List.take_succ_cons, List.filter_cons_of_neg isKept, before]

end MemberDocs

namespace MemberDocs.Markdown

variable {table table' : RuleTable} {context context' : Option String} {previous : Option Tag}
  {tag : Tag} {children : List Node} {rule : TagRule}

/-! ## What is opened -/

/-- No rule opens both the children and the members. -/
theorem TagRule.RendersBody.not_rendersMembers (rendersBody : rule.RendersBody) :
    ¬ rule.RendersMembers := by
  intro rendersMembers
  have opens := rendersBody.opensBody
  rw [rendersMembers.extract_eq] at opens
  cases opens

/-- What a standard rule opens: the children, the members of a document, or nothing. -/
theorem TagRule.visits_cases {name : String} (original : standardRules.find? name = some rule)
    (children : List Node) :
    (rule.RendersBody ∧ rule.extract.visits children = children) ∨
      (rule.RendersMembers ∧ rule.extract.visits children = documentMembers children) ∨
        rule.extract.visits children = [] := by
  obtain ⟨body, members⟩ := TagRule.scope_of_standard original
  by_cases opens : rule.extract.opensBody
  · exact Or.inl ⟨body opens, Extract.visits_of_opensBody opens children⟩
  by_cases isDocument : rule.extract = .document
  · refine Or.inr (Or.inl ⟨members isDocument, ?_⟩)
    rw [isDocument, Extract.visits]
  · exact Or.inr (Or.inr (Extract.visits_of_closed (by simpa using opens) isDocument children))

/-- What is reached from a part that is opened is reached from the element. -/
theorem Reached.of_opened (standard : table.FromStandard)
    (found : table.find? (effectiveName tag previous) = some rule) {i : Nat} {part : Node}
    (opened : (rule.extract.visits children)[i]? = some part) {path : List Nat} {visit : Visit}
    (below :
      Reached table (Node.lastTag? ((rule.extract.visits children).take i)) part path visit) :
    ∃ longer, Reached table previous (.element tag children) longer visit := by
  obtain ⟨name, original⟩ := standard _ _ found
  rcases TagRule.visits_cases original children with
    ⟨rendersBody, visited⟩ | ⟨rendersMembers, visited⟩ | visited
  · rw [visited] at opened below
    exact ⟨_, .child found rendersBody opened below⟩
  · rw [visited] at opened below
    cases membersFound : Node.child? "members" children with
    | none => simp [documentMembers, membersFound] at opened
    | some members =>
      have parts : documentMembers children = members.children.filter (Node.isNamed "member") := by
        simp [documentMembers, membersFound]
      obtain ⟨k, place, named, first⟩ := Node.child?_eq_some_iff.mp membersFound
      rw [parts] at opened below
      -- The place among the members is one among all parts of `members`.
      obtain ⟨j, inner, isMember, before⟩ := exists_place_of_filter opened
      rw [← before] at below
      exact ⟨_, .member found rendersMembers place named first inner isMember below⟩
  · rw [visited] at opened
    cases opened

/-! ## Relations of two renderings -/

/-- A relation of renderings that holds of two texts written one after the other if it holds of
each of them. -/
structure KeptByJoining (related : Except RenderError String → Except RenderError String → Prop) :
    Prop where
  empty : related (.ok "") (.ok "")
  join {first first' second second' : Except RenderError String} (front : related first first')
    (back : related second second') : related (followedBy first second) (followedBy first' second')

theorem keptByJoining_eq : KeptByJoining Eq where
  empty := rfl
  join := by
    intro first first' second second' front back
    rw [front, back]

variable {related : Except RenderError String → Except RenderError String → Prop}

/-- Neighbouring parts and changed ones: if each part and its changed one are rendered alike
wherever they stand, so are all of them. -/
theorem KeptByJoining.renderSiblings (joined : KeptByJoining related) {change : Node → Node}
    {changeTag : Tag → Tag} (heads : ∀ node, (change node).tag? = node.tag?.map changeTag)
    {nodes : List Node}
    (each : ∀ (i : Nat) part, nodes[i]? = some part → ∀ last,
      last = (Node.lastTag? (nodes.take i)).or previous →
        related (renderNode table context last part)
          (renderNode table' context' (last.map changeTag) (change part))) :
    related (renderSiblings table context previous nodes)
      (renderSiblings table' context' (previous.map changeTag) (nodes.map change)) := by
  induction nodes generalizing previous with
  | nil =>
    rw [List.map_nil, renderSiblings_nil, renderSiblings_nil]
    exact joined.empty
  | cons node rest ih =>
    have follows : (node.tag?.map changeTag).or (previous.map changeTag) =
        (node.tag?.or previous).map changeTag := by
      cases node.tag? <;> rfl
    rw [List.map_cons, renderSiblings_cons_eq, renderSiblings_cons_eq, heads, follows]
    apply joined.join
    · exact each 0 node rfl previous rfl
    · apply ih
      intro i part place last before
      apply each (i + 1) part place last
      rw [before, List.take_succ_cons, Node.lastTag?_cons, Option.or_assoc]

/-- The same neighbouring parts, rendered under two tables and in two contexts. -/
theorem KeptByJoining.renderNodes (joined : KeptByJoining related) {nodes : List Node}
    (each : ∀ (i : Nat) part, nodes[i]? = some part →
      related (renderNode table context (Node.lastTag? (nodes.take i)) part)
        (renderNode table' context' (Node.lastTag? (nodes.take i)) part)) :
    related (renderNodes table context nodes) (renderNodes table' context' nodes) := by
  have sides := @KeptByJoining.renderSiblings table table' context context' none _ joined id id
    (by simp) nodes
  rw [Option.map_none, List.map_id] at sides
  apply sides
  intro i part place last before
  rw [Option.map_id, before, Option.or_none]
  exact each i part place

end MemberDocs.Markdown
