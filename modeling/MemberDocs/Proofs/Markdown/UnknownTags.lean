import MemberDocs.Proofs.Markdown.Reach
import MemberDocs.Proofs.Markdown.Step

/-! # The first unknown tag

Rendering under a table of standard rules fails only for an element without a rule, and it does so
exactly if such an element is reached. What is reported is the first of them in the order of the
document (`renderMarkdown_reports_first_unknown`), although the walk goes through rules that open
different parts of their elements.

The walk is followed part by part: `ReportsFirst` says of a result what has to be reported, an
element passes on what its opened parts report (`reportsFirst_renderNode`), and neighbouring parts
report the first fault among them (`reportsFirst_renderSiblings`).
-/

namespace MemberDocs

/-- The first element of a name, by its place among some parts. -/
theorem Node.child?_eq_some_iff {name : String} {nodes : List Node} {e : Element} :
    Node.child? name nodes = some e ↔
      ∃ i : Nat, nodes[i]? = some (.element e.tag e.children) ∧ e.tag.name = name ∧
        ∀ earlier ∈ nodes.take i, earlier.isNamed name = false := by
  induction nodes with
  | nil => simp [child?]
  | cons node rest ih =>
    cases node with
    | text content position =>
      rw [child?, ih]
      constructor
      · rintro ⟨i, found, named, first⟩
        refine ⟨i + 1, by simpa using found, named, ?_⟩
        simpa [isNamed] using first
      · rintro ⟨i, found, named, first⟩
        cases i with
        | zero => simp at found
        | succ i => exact ⟨i, by simpa using found, named, by simpa [isNamed] using first⟩
    | element tag children =>
      rw [child?]
      by_cases same : tag.name = name
      · simp only [same, ↓reduceIte, Option.some.injEq]
        constructor
        · rintro rfl
          exact ⟨0, by simp, same, by simp⟩
        · rintro ⟨i, found, named, first⟩
          cases i with
          | zero =>
            obtain ⟨rfl, rfl⟩ : tag = e.tag ∧ children = e.children := by simpa using found
            rfl
          | succ i => simp [isNamed, same] at first
      · simp only [same, ↓reduceIte, ih]
        constructor
        · rintro ⟨i, found, named, first⟩
          exact ⟨i + 1, by simpa using found, named, by simpa [isNamed, same] using first⟩
        · rintro ⟨i, found, named, first⟩
          cases i with
          | zero =>
            obtain ⟨rfl, -⟩ : tag = e.tag ∧ children = e.children := by simpa using found
            exact absurd named same
          | succ i => exact ⟨i, by simpa using found, named, by simpa [isNamed, same] using first⟩

theorem Node.first_place_unique {name : String} {nodes : List Node} {i j : Nat} {a b : Node}
    (atI : nodes[i]? = some a) (aNamed : a.isNamed name)
    (firstI : ∀ earlier ∈ nodes.take i, earlier.isNamed name = false)
    (atJ : nodes[j]? = some b) (bNamed : b.isNamed name)
    (firstJ : ∀ earlier ∈ nodes.take j, earlier.isNamed name = false) : i = j := by
  rcases Nat.lt_trichotomy i j with before | same | after
  · have early : a ∈ nodes.take j := List.mem_of_getElem? (i := i) (by simp [before, atI])
    simp [firstJ a early] at aNamed
  · exact same
  · have early : b ∈ nodes.take i := List.mem_of_getElem? (i := j) (by simp [after, atJ])
    simp [firstI b early] at bNamed

end MemberDocs

namespace MemberDocs.Markdown

variable {table : RuleTable}

/-- A reached element without a rule. -/
def UnknownAt (table : RuleTable) (previous : Option Tag) (node : Node) (path : List Nat)
    (visit : Visit) : Prop :=
  Reached table previous node path visit ∧ visit.IsUnknown table

/-- An element without a rule that is reached from the kept ones among some parts, which follow
`previous`. -/
def UnknownAmong (table : RuleTable) (kept : Node → Bool) (previous : Option Tag)
    (nodes : List Node) : List Nat → Visit → Prop
  | [], _ => False
  | i :: path, visit =>
    ∃ part, nodes[i]? = some part ∧ kept part ∧
      UnknownAt table ((Node.lastTag? ((nodes.take i).filter kept)).or previous) part path visit

/-- The result of a walk that stops at the first of some faults, each given by its path. -/
def ReportsFirst (faults : List Nat → Visit → Prop) : Except RenderError String → Prop
  | .ok _ => ∀ path visit, ¬ faults path visit
  | .error error =>
    ∃ path visit, faults path visit ∧ error = .unknownTag visit.report ∧
      ∀ otherPath other, faults otherPath other →
        otherPath = path ∨ List.Lex (· < ·) path otherPath

theorem unknownAmong_cons_zero {kept : Node → Bool} {previous : Option Tag} {node : Node}
    {rest : List Node} {path : List Nat} {visit : Visit} :
    UnknownAmong table kept previous (node :: rest) (0 :: path) visit ↔
      kept node ∧ UnknownAt table previous node path visit := by
  simp [UnknownAmong]

theorem unknownAmong_cons_succ {kept : Node → Bool} {previous : Option Tag} {node : Node}
    {rest : List Node} {i : Nat} {path : List Nat} {visit : Visit} :
    UnknownAmong table kept previous (node :: rest) ((i + 1) :: path) visit ↔
      UnknownAmong table kept (if kept node then node.tag?.or previous else previous) rest
        (i :: path) visit := by
  by_cases isKept : kept node
  · simp [UnknownAmong, isKept, Node.lastTag?_cons, Option.or_assoc]
  · simp [UnknownAmong, isKept]

theorem ReportsFirst.congr {faults others : List Nat → Visit → Prop}
    {result : Except RenderError String} (reports : ReportsFirst faults result)
    (same : ∀ path visit, others path visit ↔ faults path visit) :
    ReportsFirst others result := by
  have equal : others = faults := by
    funext path visit
    exact propext (same path visit)
  exact equal ▸ reports

/-- Faults that all lie below one child are reported as they are there. -/
theorem ReportsFirst.below {faults others : List Nat → Visit → Prop}
    {result : Except RenderError String} (i : Nat) (reports : ReportsFirst faults result)
    (same : ∀ path visit, others path visit ↔ ∃ rest, path = i :: rest ∧ faults rest visit) :
    ReportsFirst others result := by
  cases result with
  | ok text =>
    intro path visit fault
    obtain ⟨rest, -, below⟩ := (same path visit).mp fault
    exact reports rest visit below
  | error error =>
    obtain ⟨path, visit, fault, reported, first⟩ := reports
    refine ⟨i :: path, visit, (same _ _).mpr ⟨path, rfl, fault⟩, reported, ?_⟩
    intro otherPath other otherFault
    obtain ⟨rest, rfl, below⟩ := (same _ _).mp otherFault
    rcases first rest other below with rfl | later
    · exact Or.inl rfl
    · exact Or.inr (.cons later)

/-- Faults that all lie among the parts after the first one are reported as they are there. -/
theorem ReportsFirst.after {faults others : List Nat → Visit → Prop}
    {result : Except RenderError String} (reports : ReportsFirst faults result)
    (inside : ∀ visit, ¬ faults [] visit)
    (same : ∀ path visit, others path visit ↔
      ∃ i rest, path = (i + 1) :: rest ∧ faults (i :: rest) visit) :
    ReportsFirst others result := by
  cases result with
  | ok text =>
    intro path visit fault
    obtain ⟨i, rest, -, later⟩ := (same path visit).mp fault
    exact reports _ visit later
  | error error =>
    obtain ⟨_ | ⟨i, path⟩, visit, fault, reported, first⟩ := reports
    · exact absurd fault (inside visit)
    refine ⟨(i + 1) :: path, visit, (same _ _).mpr ⟨i, path, rfl, fault⟩, reported, ?_⟩
    intro otherPath other otherFault
    obtain ⟨j, rest, rfl, later⟩ := (same _ _).mp otherFault
    rcases first _ other later with equal | after
    · obtain ⟨rfl, rfl⟩ : j = i ∧ rest = path := by simpa using equal
      exact Or.inl rfl
    · cases after with
      | cons below => exact Or.inr (.cons below)
      | rel smaller => exact Or.inr (.rel (Nat.succ_lt_succ smaller))

theorem ReportsFirst.map {faults : List Nat → Visit → Prop} {result : Except RenderError String}
    (reports : ReportsFirst faults result) (f : String → String) :
    ReportsFirst faults (result.map f) := by
  cases result with
  | ok text => exact reports
  | error error => exact reports

/-- Neighbouring parts report the first fault among them, if each part reports its own. -/
theorem reportsFirst_renderSiblings (context : Option String) (kept : Node → Bool)
    {nodes : List Node}
    (each : ∀ node ∈ nodes, kept node → ∀ previous,
      ReportsFirst (UnknownAt table previous node) (renderNode table context previous node))
    (previous : Option Tag) :
    ReportsFirst (UnknownAmong table kept previous nodes)
      (renderSiblings table context previous (nodes.filter kept)) := by
  induction nodes generalizing previous with
  | nil =>
    rw [List.filter_nil, renderSiblings]
    rintro (_ | ⟨i, path⟩) visit <;> simp [UnknownAmong]
  | cons node rest ih =>
    have later := ih fun part member => each part (List.mem_cons_of_mem node member)
    by_cases isKept : kept node
    · rw [List.filter_cons_of_pos isKept, renderSiblings_cons]
      have own := each node List.mem_cons_self isKept previous
      cases first : renderNode table context previous node with
      | error error =>
        -- The first part fails, and its faults come before those of all later parts.
        rw [first] at own
        obtain ⟨path, visit, fault, reported, earliest⟩ := own
        refine ⟨0 :: path, visit, unknownAmong_cons_zero.mpr ⟨isKept, fault⟩, reported, ?_⟩
        rintro (_ | ⟨_ | i, otherPath⟩) other otherFault
        · exact otherFault.elim
        · rcases earliest _ _ (unknownAmong_cons_zero.mp otherFault).2 with rfl | after
          · exact Or.inl rfl
          · exact Or.inr (.cons after)
        · exact Or.inr (.rel (Nat.succ_pos i))
      | ok text =>
        -- The first part has no fault, so those that are left lie in later parts.
        rw [first] at own
        refine ((later (node.tag?.or previous)).map (text ++ ·)).after (fun _ => id) ?_
        rintro (_ | ⟨_ | i, path⟩) visit
        · simp [UnknownAmong]
        · simp [unknownAmong_cons_zero, own path visit]
        · simp [unknownAmong_cons_succ, isKept]
    · -- A part that is left out is no neighbour of the next ones either.
      rw [List.filter_cons_of_neg isKept]
      refine (later previous).after (fun _ => id) ?_
      rintro (_ | ⟨_ | i, path⟩) visit
      · simp [UnknownAmong]
      · simp [unknownAmong_cons_zero, isKept]
      · simp [unknownAmong_cons_succ, isKept]

/-! ## From an element to what it opens -/

variable {previous : Option Tag} {tag : Tag} {children : List Node} {rule : TagRule}

/-- An element with a rule that shows its body has the unknown elements of its children. -/
theorem unknownAt_of_body (found : table.find? (effectiveName tag previous) = some rule)
    (opens : rule.RendersBody) (path : List Nat) (visit : Visit) :
    UnknownAt table previous (.element tag children) path visit ↔
      UnknownAmong table (fun _ => true) none children path visit := by
  constructor
  · rintro ⟨reached, unknown⟩
    cases reached with
    | here => simp [Visit.IsUnknown, Visit.name, found] at unknown
    | child _ _ place below => exact ⟨_, place, rfl, by simpa using below, unknown⟩
    | member same isDocument =>
      obtain rfl : _ = rule := Option.some.inj (same.symm.trans found)
      have closed := opens.opensBody
      simp [isDocument.extract_eq, Extract.opensBody] at closed
  · cases path with
    | nil => exact False.elim
    | cons i path =>
      rintro ⟨part, place, -, below, unknown⟩
      exact ⟨.child found opens place (by simpa using below), unknown⟩

theorem unknownAt_of_members (found : table.find? (effectiveName tag previous) = some rule)
    (isDocument : rule.RendersMembers) {i : Nat} {members : Tag} {parts : List Node}
    (place : children[i]? = some (.element members parts)) (named : members.name = "members")
    (first : ∀ earlier ∈ children.take i, earlier.isNamed "members" = false)
    (path : List Nat) (visit : Visit) :
    UnknownAt table previous (.element tag children) path visit ↔
      ∃ rest, path = i :: rest ∧
        UnknownAmong table (Node.isNamed "member") none parts rest visit := by
  constructor
  · rintro ⟨reached, unknown⟩
    cases reached with
    | here => simp [Visit.IsUnknown, Visit.name, found] at unknown
    | child same opens =>
      obtain rfl : _ = rule := Option.some.inj (same.symm.trans found)
      have closed := opens.opensBody
      simp [isDocument.extract_eq, Extract.opensBody] at closed
    | member _ _ otherPlace otherNamed otherFirst inner isMember below =>
      obtain rfl := Node.first_place_unique otherPlace (by simpa [Node.isNamed] using otherNamed)
        otherFirst place (by simpa [Node.isNamed] using named) first
      obtain ⟨rfl, rfl⟩ : members = _ ∧ parts = _ := by
        simpa using Option.some.inj (place.symm.trans otherPlace)
      exact ⟨_, rfl, _, inner, isMember, by simpa using below, unknown⟩
  · rintro ⟨_ | ⟨j, path⟩, rfl, fault⟩
    · exact fault.elim
    · obtain ⟨part, inner, isMember, below, unknown⟩ := fault
      exact ⟨.member found isDocument place named first inner isMember (by simpa using below), unknown⟩

/-- Below an element whose rule opens nothing, nothing is unknown. -/
theorem not_unknownAt_of_closed (found : table.find? (effectiveName tag previous) = some rule)
    (notBody : ¬ rule.RendersBody) (path : List Nat) (visit : Visit)
    (noMembers : rule.RendersMembers → Node.child? "members" children = none) :
    ¬ UnknownAt table previous (.element tag children) path visit := by
  rintro ⟨reached, unknown⟩
  cases reached with
  | here => simp [Visit.IsUnknown, Visit.name, found] at unknown
  | child same opens =>
    exact notBody (Option.some.inj (found.symm.trans same) ▸ opens)
  | @member _ _ _ _ i _ members parts _ _ _ same isDocument place named first =>
    have absent := noMembers (Option.some.inj (found.symm.trans same) ▸ isDocument)
    have present := Node.child?_eq_some_iff (e := ⟨members, parts⟩).mpr ⟨i, place, named, first⟩
    simp [absent] at present

/-- Applying a standard rule adds no fault. -/
theorem ReportsFirst.apply {faults : List Nat → Visit → Prop} {parts : Except RenderError String}
    (reports : ReportsFirst faults parts) {name : String}
    (original : standardRules.find? name = some rule) (tag : Tag) (children : List Node)
    (context : Option String) : ReportsFirst faults (parts.bind (rule.apply tag children context)) := by
  cases parts with
  | error error => exact reports
  | ok rendered =>
    obtain ⟨text, shown⟩ := rule.exists_apply_of_standard original tag children context rendered
    change ReportsFirst faults (rule.apply tag children context rendered)
    rw [shown]
    exact reports

section Opened

variable {context : Option String}
  (each : ∀ part ∈ rule.extract.visits children, ∀ previous,
    ReportsFirst (UnknownAt table previous part) (renderNode table context previous part))

include each

theorem reportsFirst_of_body (found : table.find? (effectiveName tag previous) = some rule)
    (opens : rule.RendersBody) :
    ReportsFirst (UnknownAt table previous (.element tag children))
      (renderNodes table context (rule.extract.visits children)) := by
  rw [Extract.visits_of_opensBody opens.opensBody children] at each ⊢
  have siblings := reportsFirst_renderSiblings context (fun _ => true)
    (fun part member _ => each part member) none
  rw [List.filter_true] at siblings
  exact siblings.congr (unknownAt_of_body found opens)

theorem reportsFirst_of_members (found : table.find? (effectiveName tag previous) = some rule)
    (notBody : ¬ rule.RendersBody) (isDocument : rule.RendersMembers) :
    ReportsFirst (UnknownAt table previous (.element tag children))
      (renderNodes table context (rule.extract.visits children)) := by
  have visited : rule.extract.visits children = documentMembers children := by
    rw [isDocument.extract_eq, Extract.visits]
  cases membersFound : Node.child? "members" children with
  | none =>
    have nothing : documentMembers children = [] := by simp [documentMembers, membersFound]
    rw [visited, nothing, renderNodes, renderSiblings_nil]
    exact fun path visit => not_unknownAt_of_closed found notBody path visit fun _ => membersFound
  | some members =>
    obtain ⟨i, place, named, first⟩ := Node.child?_eq_some_iff.mp membersFound
    have parts : documentMembers children = members.children.filter (Node.isNamed "member") := by
      simp [documentMembers, membersFound]
    rw [visited, parts] at each ⊢
    exact (reportsFirst_renderSiblings context (Node.isNamed "member")
      (fun part member isMember => each part (List.mem_filter.mpr ⟨member, isMember⟩)) none).below i
        (unknownAt_of_members found isDocument place named first)

end Opened

/-- A part reports the first unknown element that is reached from it. -/
theorem reportsFirst_renderNode (standard : table.FromStandard) (node : Node)
    (context : Option String) (previous : Option Tag) :
    ReportsFirst (UnknownAt table previous node) (renderNode table context previous node) := by
  induction node using Node.visitInduction generalizing context previous with
  | text content position =>
    rw [renderNode_text]
    rintro path visit ⟨⟨⟩, -⟩
  | element tag children ih =>
    cases found : table.find? (effectiveName tag previous) with
    | none =>
      rw [renderNode_of_unknown children found]
      refine ⟨[], ⟨tag, previous⟩, ⟨.here previous tag children, found⟩, rfl, ?_⟩
      rintro (_ | ⟨i, path⟩) other -
      · exact Or.inl rfl
      · exact Or.inr .nil
    | some rule =>
      obtain ⟨name, original⟩ := standard _ _ found
      rw [renderNode_of_rule children found]
      refine ReportsFirst.apply ?_ original tag children context
      have each := fun part member => ih rule.extract part member (rule.extract.context children context)
      by_cases opens : rule.RendersBody
      · exact reportsFirst_of_body each found opens
      by_cases isDocument : rule.RendersMembers
      · exact reportsFirst_of_members each found opens isDocument
      · have closed : rule.extract.opensBody = false := by
          by_contra opened
          exact opens ((TagRule.scope_of_standard original).1 (by simpa using opened))
        have notDocument : rule.extract ≠ .document := fun equal =>
          isDocument ((TagRule.scope_of_standard original).2 equal)
        rw [Extract.visits_of_closed closed notDocument, renderNodes, renderSiblings_nil]
        exact fun path visit => not_unknownAt_of_closed found opens path visit fun members =>
          absurd members isDocument

/-- **Unknown tags.** Under a table of standard rules a tree cannot be rendered exactly if an element
without a rule is reached, and the fault is the first such element in the order of the document. -/
theorem renderMarkdown_reports_first_unknown (standard : table.FromStandard)
    (context : Option String) (node : Node) :
    ((∃ unknown, renderMarkdown table context node = .error (.unknownTag unknown)) ↔
      ∃ path visit, Reached table none node path visit ∧ table.find? visit.name = none) ∧
    ∀ error, renderMarkdown table context node = .error error →
      ∃ path visit, Reached table none node path visit ∧ table.find? visit.name = none ∧
        error = .unknownTag ⟨visit.name, visit.tag.position⟩ ∧
        ∀ otherPath other, Reached table none node otherPath other →
          table.find? other.name = none → otherPath = path ∨ List.Lex (· < ·) path otherPath := by
  have reports := reportsFirst_renderNode standard node context none
  unfold renderMarkdown
  cases result : renderNode table context none node with
  | ok text =>
    rw [result] at reports
    refine ⟨⟨?_, ?_⟩, ?_⟩
    · rintro ⟨unknown, failed⟩
      simp [Except.map] at failed
    · rintro ⟨path, visit, reached, unknown⟩
      exact absurd ⟨reached, unknown⟩ (reports path visit)
    · intro error failed
      simp [Except.map] at failed
  | error error =>
    rw [result] at reports
    obtain ⟨path, visit, ⟨reached, unknown⟩, rfl, first⟩ := reports
    refine ⟨⟨fun _ => ⟨path, visit, reached, unknown⟩, fun _ => ⟨_, rfl⟩⟩, ?_⟩
    rintro _ ⟨rfl⟩
    exact ⟨path, visit, reached, unknown, rfl, fun otherPath other otherReached otherUnknown =>
      first otherPath other ⟨otherReached, otherUnknown⟩⟩

/-- A parameter that follows a `param` is looked up under its own name: here in a paragraph that goes
by an alias, before code that has no rule either. -/
theorem unknown_parameter_is_reported :
    let table := (standardRules.insert "note" ⟨[.slot 0, .literal "\n\n"], .body⟩).erase ["code"]
    let tree : Node := .element ⟨"note", [], ⟨1, 1⟩⟩
      [.element ⟨"inheritdoc", [], ⟨1, 7⟩⟩ [.element ⟨"bogus", [], ⟨1, 19⟩⟩ []],
        .element ⟨"param", [("name", "side")], ⟨2, 1⟩⟩ [], .text " " ⟨2, 21⟩,
        .element ⟨"fooparam", [], ⟨2, 22⟩⟩ [], .element ⟨"code", [], ⟨3, 1⟩⟩ []]
    table.FromStandard ∧
      ∃ unknown, renderMarkdown table none tree = .error (.unknownTag unknown) := by
  intro table tree
  have para : standardRules.find? "para" = some ⟨[.slot 0, .literal "\n\n"], .body⟩ := rfl
  have standard : table.FromStandard :=
    (RuleTable.fromStandard_standardRules.insert "note" para).erase ["code"]
  have reached : Reached table none tree [3]
      ⟨⟨"fooparam", [], ⟨2, 22⟩⟩, some ⟨"param", [("name", "side")], ⟨2, 1⟩⟩⟩ :=
    .child (by decide) ⟨"para", by decide, para⟩ rfl (.here _ _ _)
  exact ⟨standard, (renderMarkdown_reports_first_unknown standard none tree).1.mpr
    ⟨_, _, reached, by decide⟩⟩

end MemberDocs.Markdown
