import MemberDocs.Proofs.Markdown.Agreement
import MemberDocs.Proofs.Markdown.Comparison
import MemberDocs.Proofs.Markdown.ShownTexts

/-! # A part and what stands around it

A part of a tree that is reached is rendered in the midst of the rest: what comes before it, the
part itself, and what comes after it (`Frame.fill`). This frame does not depend on what the part
holds, and the context in which the part is rendered is that of the tree, unless the way to it leads
through a document (`Reached.exists_frame`). Only below a `paramref` the part is not shown, though
it has to be free of faults. For an element the frame comes from its template, in which what is
rendered below it has one slot (`TagRule.exists_around`), and from the neighbours of the part
(`renderNodes_around`).
-/

namespace MemberDocs

/-! ## Parts in other places -/

/-- The tree with another part in the place to which some child positions lead. -/
def Node.replaceAt (node : Node) (path : List Nat) (new : Node) : Node :=
  match path, node with
  | [], _ => new
  | _ :: _, .text content position => .text content position
  | i :: path, .element tag children =>
    .element tag (children.modify i fun part => part.replaceAt path new)

/-- An element with another name is not in the way of the first one with a name. -/
theorem Node.child?_append_cons {name : String} {node : Node} (other : node.isNamed name = false)
    (before after : List Node) :
    child? name (before ++ node :: after) = child? name (before ++ after) := by
  induction before with
  | nil =>
    cases node with
    | text content position => rfl
    | element tag children =>
      have differs : tag.name ≠ name := by simpa [isNamed] using other
      rw [List.nil_append, child?, if_neg differs, List.nil_append]
  | cons first rest ih =>
    cases first with
    | text content position => exact ih
    | element tag children =>
      rw [List.cons_append, List.cons_append, child?, child?, ih]

theorem Node.isNamed_congr {first second : Node} (head : first.tag? = second.tag?) (name : String) :
    first.isNamed name = second.isNamed name := by
  cases first <;> cases second <;> simp_all [tag?, isNamed]

/-- Some parts are those before a place, the one in it, and those after it, and a change of the one
in it leaves the others. -/
theorem split_at_place {α : Type} {parts : List α} {i : Nat} {part : α}
    (place : parts[i]? = some part) (change : α → α) :
    parts = parts.take i ++ part :: parts.drop (i + 1) ∧
      parts.modify i change = parts.take i ++ change part :: parts.drop (i + 1) := by
  obtain ⟨inside, rfl⟩ := List.getElem?_eq_some_iff.mp place
  refine ⟨?_, List.modify_eq_take_cons_drop inside⟩
  rw [List.getElem_cons_drop, List.take_append_drop]

end MemberDocs

namespace MemberDocs.Markdown

/-! ## Templates with one open slot -/

section Template

variable {fixed : List String} {template : Template}

/-- A template that does not show the last value is filled alike for all of them. -/
theorem Template.exists_fill_of_unused (enough : ∀ index ∈ template.slots, index ≤ fixed.length)
    (unused : template.slots.filter (fixed.length = ·) = []) :
    ∃ shown, ∀ body, template.fill (fixed ++ [body]) = .ok shown := by
  have bound : ∀ index ∈ template.slots, index < fixed.length := by
    intro index member
    have other := List.filter_eq_nil_iff.mp unused index member
    exact Nat.lt_of_le_of_ne (enough index member) fun same => other (by simp [same])
  clear enough unused
  induction template with
  | nil => exact ⟨"", fun _ => rfl⟩
  | cons piece rest ih =>
    cases piece with
    | literal text =>
      obtain ⟨shown, filled⟩ := ih bound
      refine ⟨text ++ shown, ?_⟩
      intro body
      rw [fill, filled]
      rfl
    | slot index =>
      have here : index < fixed.length := bound index List.mem_cons_self
      obtain ⟨shown, filled⟩ := ih fun other later => bound other (List.mem_cons_of_mem _ later)
      refine ⟨fixed[index] ++ shown, ?_⟩
      intro body
      rw [fill, List.getElem?_append_left here, List.getElem?_eq_getElem here, filled]
      rfl

/-- A template that shows the last value once is filled with it between two texts. -/
theorem Template.exists_fill_around (enough : ∀ index ∈ template.slots, index ≤ fixed.length)
    (once : template.slots.filter (fixed.length = ·) = [fixed.length]) :
    ∃ lead trail, ∀ body, template.fill (fixed ++ [body]) = .ok (lead ++ body ++ trail) := by
  induction template with
  | nil => cases once
  | cons piece rest ih =>
    cases piece with
    | literal text =>
      obtain ⟨lead, trail, filled⟩ := ih enough once
      refine ⟨text ++ lead, trail, ?_⟩
      intro body
      simp [fill, filled, Except.map, String.append_assoc]
    | slot index =>
      have slots : slots (.slot index :: rest) = index :: slots rest := rfl
      rw [slots] at enough once
      rw [List.forall_mem_cons] at enough
      by_cases here : index = fixed.length
      · -- The last value stands here, and nowhere later.
        rw [List.filter_cons, if_pos (decide_eq_true here.symm), here] at once
        obtain ⟨shown, filled⟩ := exists_fill_of_unused enough.2 (List.tail_eq_of_cons_eq once)
        refine ⟨"", shown, ?_⟩
        intro body
        simp [fill, filled, here, Except.map]
      · rw [List.filter_cons, if_neg (by simpa using Ne.symm here)] at once
        obtain ⟨lead, trail, filled⟩ := ih enough.2 once
        have before : index < fixed.length := Nat.lt_of_le_of_ne enough.1 here
        refine ⟨fixed[index] ++ lead, trail, ?_⟩
        intro body
        rw [fill, List.getElem?_append_left before, List.getElem?_eq_getElem before, filled]
        simp [Except.map, String.append_assoc]

end Template

/-- What an extract gives besides the rendering of what it visits. -/
theorem Extract.exists_fixed {extract : Extract} {slot : Nat} (own : extract.bodySlot? = some slot)
    (tag : Tag) (children : List Node) (outer : Option String) :
    ∃ fixed : List String, fixed.length = slot ∧
      ∀ body, extract.values tag children outer body = fixed ++ [body] := by
  cases extract with
  | body =>
    cases own
    exact ⟨[], rfl, fun _ => rfl⟩
  | attributeAndBody | member | document | anchor =>
    cases own
    exact ⟨[_], rfl, fun _ => rfl⟩
  | reference | attributeAlone | keyword | code | nothing => cases own

theorem Extract.exists_bodySlot {extract : Extract} (opens : extract.opensBody) :
    ∃ slot, extract.bodySlot? = some slot := by
  cases extract with
  | body | attributeAndBody | member | anchor => exact ⟨_, rfl⟩
  | document | reference | attributeAlone | keyword | code | nothing => cases opens

/-! ## Frames -/

/-- A text, or nothing of it. -/
def covered (shows : Bool) (text : String) : String :=
  if shows then text else ""

theorem covered_append (shows : Bool) (text text' : String) :
    covered shows (text ++ text') = covered shows text ++ covered shows text' := by
  cases shows <;> simp [covered]

theorem covered_covered (shows shows' : Bool) (text : String) :
    covered shows (covered shows' text) = covered (shows && shows') text := by
  cases shows <;> cases shows' <;> rfl

theorem map_covered_followedBy (shows : Bool) (first second : Except RenderError String) :
    (followedBy first second).map (covered shows) =
      followedBy (first.map (covered shows)) (second.map (covered shows)) := by
  cases first with
  | error error => rfl
  | ok text => cases second <;> simp [followedBy, Except.bind, Except.map, covered_append]

/-- What stands around a part in the rendering of a tree: the renderings before and after it, and
whether it is shown between them or only has to be free of faults. -/
structure Frame where
  front : Except RenderError String
  back : Except RenderError String
  shows : Bool

namespace Frame

/-- The rendering of the tree, given that of the part. -/
def fill (frame : Frame) (part : Except RenderError String) : Except RenderError String :=
  followedBy frame.front (followedBy (part.map (covered frame.shows)) frame.back)

/-- Nothing around the part. -/
def bare : Frame := ⟨.ok "", .ok "", true⟩

theorem fill_bare (part : Except RenderError String) : bare.fill part = part := by
  cases part <;> simp [fill, bare, covered, Except.map]

/-- The frame in an element: neighbours before and after it, and the text that the rule of the
element writes around them. -/
def within (frame : Frame) (before after : Except RenderError String) (shows : Bool)
    (lead trail : String) : Frame where
  front := followedBy (.ok lead) ((followedBy before frame.front).map (covered shows))
  back := followedBy ((followedBy frame.back after).map (covered shows)) (.ok trail)
  shows := shows && frame.shows

theorem fill_within (frame : Frame) (before after : Except RenderError String) (shows : Bool)
    (lead trail : String) (part : Except RenderError String) :
    (frame.within before after shows lead trail).fill part =
      (followedBy before (followedBy (frame.fill part) after)).bind fun body =>
        .ok (lead ++ covered shows body ++ trail) := by
  have written (row : Except RenderError String) :
      (row.bind fun body => .ok (lead ++ covered shows body ++ trail)) =
        followedBy (.ok lead) (followedBy (row.map (covered shows)) (.ok trail)) := by
    cases row <;> simp [followedBy, Except.bind, Except.map, String.append_assoc]
  have covers : part.map (covered (shows && frame.shows)) =
      (part.map (covered frame.shows)).map (covered shows) := by
    cases part <;> simp [Except.map, covered_covered]
  rw [written, fill, fill, within]
  simp only [covers, map_covered_followedBy, followedBy_assoc]

end Frame

/-- What a standard rule writes around the rendering of what it visits. The rule for `paramref`
alone does not show it. -/
theorem TagRule.exists_around {rule : TagRule} {name : String}
    (original : standardRules.find? name = some rule) {slot : Nat}
    (own : rule.extract.bodySlot? = some slot) (tag : Tag) (children : List Node)
    (context : Option String) :
    ∃ shows lead trail, (name ≠ "paramref" → shows = true) ∧
      ∀ body, rule.apply tag children context body = .ok (lead ++ covered shows body ++ trail) := by
  have listed := mem_of_lookup original
  have slots := standardRules_bodySlots _ listed
  have enough := standardRules_slots _ listed
  obtain ⟨fixed, rfl, values⟩ := Extract.exists_fixed own tag children context
  simp only [own, Option.some.injEq] at slots
  have arity : rule.extract.arity = fixed.length + 1 := by
    rw [← Extract.length_values rule.extract tag children context "", values]
    simp
  simp only [arity] at enough
  replace enough : ∀ index ∈ Template.slots rule.template, index ≤ fixed.length :=
    fun index member => Nat.le_of_lt_succ (enough index member)
  by_cases isReference : name = "paramref"
  · rw [if_pos isReference] at slots
    obtain ⟨shown, filled⟩ := Template.exists_fill_of_unused enough slots
    refine ⟨false, shown, "", absurd isReference, ?_⟩
    intro body
    simp [apply, values, filled, Except.mapError, covered]
  · rw [if_neg isReference] at slots
    obtain ⟨lead, trail, filled⟩ := Template.exists_fill_around enough slots
    refine ⟨true, lead, trail, fun _ => rfl, ?_⟩
    intro body
    simp [apply, values, filled, Except.mapError, covered]

/-! ## Ways to a part -/

variable {table : RuleTable} {context : Option String} {previous : Option Tag} {tag : Tag}
  {children : List Node} {rule : TagRule} {node new : Node} {path : List Nat} {visit : Visit}
  {name : String}

/-- The way leads through a reached element with the standard rule of the name, to something below
it. -/
def LeadsThrough (table : RuleTable) (name : String) (previous : Option Tag) (node : Node)
    (path : List Nat) : Prop :=
  ∃ front visit, front <+: path ∧ front ≠ path ∧ Reached table previous node front visit ∧
    table.find? visit.name = standardRules.find? name

theorem LeadsThrough.here
    (found : table.find? (effectiveName tag previous) = standardRules.find? name) {i : Nat} : LeadsThrough table name previous (.element tag children) (i :: path) :=
  ⟨[], ⟨tag, previous⟩, List.nil_prefix, nofun, .here previous tag children, found⟩

theorem LeadsThrough.child (found : table.find? (effectiveName tag previous) = some rule)
    (rendersBody : rule.RendersBody) {i : Nat} {part : Node} (place : children[i]? = some part)
    (through : LeadsThrough table name (Node.lastTag? (children.take i)) part path) :
    LeadsThrough table name previous (.element tag children) (i :: path) := by
  obtain ⟨front, visit, start, other, reached, known⟩ := through
  exact ⟨i :: front, visit, List.cons_prefix_cons.mpr ⟨rfl, start⟩,
    fun same => other (List.cons.inj same).2, .child found rendersBody place reached, known⟩

theorem LeadsThrough.member (found : table.find? (effectiveName tag previous) = some rule)
    (rendersMembers : rule.RendersMembers) {i j : Nat} {members : Tag} {parts : List Node}
    {part : Node} (place : children[i]? = some (.element members parts))
    (named : members.name = "members")
    (first : ∀ earlier ∈ children.take i, earlier.isNamed "members" = false)
    (inner : parts[j]? = some part) (isMember : part.isNamed "member")
    (through : LeadsThrough table name
      (Node.lastTag? ((parts.take j).filter (Node.isNamed "member"))) part path) :
    LeadsThrough table name previous (.element tag children) (i :: j :: path) := by
  obtain ⟨front, visit, start, other, reached, known⟩ := through
  refine ⟨i :: j :: front, visit, ?_, ?_,
    .member found rendersMembers place named first inner isMember reached, known⟩
  · exact List.cons_prefix_cons.mpr ⟨rfl, List.cons_prefix_cons.mpr ⟨rfl, start⟩⟩
  · intro same
    exact other (List.cons.inj (List.cons.inj same).2).2

theorem Reached.tag?_replaceAt (reached : Reached table previous node path visit)
    (head : new.tag? = some visit.tag) : (node.replaceAt path new).tag? = node.tag? := by
  cases reached with
  | here => exact head
  | child => rfl
  | member => rfl

/-- With its own children in its place, the tree is as it was. -/
theorem Reached.exists_own (reached : Reached table previous node path visit) :
    ∃ own, node.replaceAt path (.element visit.tag own) = node := by
  induction reached with
  | here previous tag children => exact ⟨children, rfl⟩
  | child found rendersBody place below ih =>
    obtain ⟨own, same⟩ := ih
    refine ⟨own, ?_⟩
    obtain ⟨before, after⟩ := split_at_place place _
    rw [Node.replaceAt, after, same, ← before]
  | member found rendersMembers place named first inner isMember below ih =>
    obtain ⟨own, same⟩ := ih
    refine ⟨own, ?_⟩
    obtain ⟨before, after⟩ := split_at_place place _
    obtain ⟨beforeInner, afterInner⟩ := split_at_place inner _
    rw [Node.replaceAt, after, Node.replaceAt, afterInner, same, ← beforeInner, ← before]

/-! ## The frame of a part -/

/-- Neighbouring parts, one of which has another part with the same head in its place. -/
theorem renderNodes_around {part other : Node} (head : other.tag? = part.tag?)
    (before after : List Node) :
    renderNodes table context (before ++ other :: after) =
      followedBy (renderNodes table context before)
        (followedBy (renderNode table context (Node.lastTag? before) other)
          (renderSiblings table context (part.tag?.or (Node.lastTag? before)) after)) := by
  rw [renderNodes, renderSiblings_append, renderSiblings_cons_eq, Option.or_none, head]
  rfl

/-- A document in which only something below `members` has changed. -/
theorem documentMembers_modify {i : Nat} {members : Tag} {parts parts' : List Node}
    {change : Node → Node} (place : children[i]? = some (.element members parts))
    (named : members.name = "members")
    (first : ∀ earlier ∈ children.take i, earlier.isNamed "members" = false)
    (changed : change (.element members parts) = .element members parts') :
    documentMembers (children.modify i change) = parts'.filter (Node.isNamed "member") ∧
      assemblyName (children.modify i change) = assemblyName children := by
  obtain ⟨before, after⟩ := split_at_place place change
  rw [changed] at after
  have found : Node.child? "members" (children.modify i change) = some ⟨members, parts'⟩ := by
    apply Node.child?_eq_some_iff.mpr
    refine ⟨i, ?_, named, ?_⟩
    · rw [List.getElem?_modify, place]
      simp [changed]
    · rwa [List.take_modify, List.modify_eq_self (List.length_take_le i children)]
  have other (parts : List Node) : (Node.element members parts).isNamed "assembly" = false := by
    simp [Node.isNamed, named]
  constructor
  · rw [documentMembers, found]
  · rw [after, assemblyName, Node.child?_append_cons (other parts'),
      ← Node.child?_append_cons (other parts), ← before, ← assemblyName]

/-- A rule that opens the children reads nothing else of them. -/
theorem TagRule.RendersBody.apply_eq {rule : TagRule} (rendersBody : rule.RendersBody)
    (parts parts' : List Node) (context : Option String) :
    rule.apply tag parts context = rule.apply tag parts' context := by
  have opens := rendersBody.opensBody
  funext rendered
  rw [TagRule.apply, TagRule.apply]
  cases extract : rule.extract <;> simp_all [Extract.opensBody, Extract.values]

/-- The rule for documents reads the assembly name of them and what it opens. -/
theorem TagRule.RendersMembers.apply_eq {rule : TagRule} (rendersMembers : rule.RendersMembers)
    {parts parts' : List Node} (same : assemblyName parts = assemblyName parts')
    (context : Option String) :
    rule.apply tag parts context = rule.apply tag parts' context := by
  funext rendered
  rw [TagRule.apply, TagRule.apply, rendersMembers.extract_eq, Extract.values, Extract.values, same]

/-- A change below a child leaves its neighbours. -/
theorem exists_neighbours_of_child (found : table.find? (effectiveName tag previous) = some rule)
    (rendersBody : rule.RendersBody) {i : Nat} {part : Node} (place : children[i]? = some part)
    (context : Option String) :
    ∃ before after, ∀ path new, (part.replaceAt path new).tag? = part.tag? →
      renderNode table context previous ((Node.element tag children).replaceAt (i :: path) new) =
        (followedBy before (followedBy (renderNode table context
          (Node.lastTag? (children.take i)) (part.replaceAt path new)) after)).bind
            (rule.apply tag children context) := by
  have opens := rendersBody.opensBody
  refine ⟨renderNodes table context (children.take i),
    renderSiblings table context (part.tag?.or (Node.lastTag? (children.take i)))
      (children.drop (i + 1)), ?_⟩
  intro path new head
  rw [Node.replaceAt, renderNode_of_rule _ found, Extract.visits_of_opensBody opens,
    Extract.context_of_opensBody opens, rendersBody.apply_eq _ children, (split_at_place place _).2,
    renderNodes_around head]

/-- A change below a member of a document leaves the other members and the assembly name. -/
theorem exists_neighbours_of_member (found : table.find? (effectiveName tag previous) = some rule)
    (rendersMembers : rule.RendersMembers) {i j : Nat} {members : Tag} {parts : List Node}
    {part : Node} (place : children[i]? = some (.element members parts))
    (named : members.name = "members")
    (first : ∀ earlier ∈ children.take i, earlier.isNamed "members" = false)
    (inner : parts[j]? = some part) (isMember : part.isNamed "member") (context : Option String) :
    ∃ before after, ∀ path new, (part.replaceAt path new).tag? = part.tag? →
      renderNode table context previous
          ((Node.element tag children).replaceAt (i :: j :: path) new) =
        (followedBy before (followedBy (renderNode table (some (assemblyName children))
          (Node.lastTag? ((parts.take j).filter (Node.isNamed "member")))
            (part.replaceAt path new)) after)).bind (rule.apply tag children context) := by
  refine ⟨renderNodes table (some (assemblyName children))
      ((parts.take j).filter (Node.isNamed "member")),
    renderSiblings table (some (assemblyName children))
      (part.tag?.or (Node.lastTag? ((parts.take j).filter (Node.isNamed "member"))))
      ((parts.drop (j + 1)).filter (Node.isNamed "member")), ?_⟩
  intro path new head
  have isMemberStill := (Node.isNamed_congr head "member").trans isMember
  obtain ⟨opened, assembly⟩ := @documentMembers_modify children i members parts _
    (fun part => part.replaceAt (j :: path) new) place named first rfl
  rw [Node.replaceAt, renderNode_of_rule _ found, rendersMembers.apply_eq assembly,
    rendersMembers.extract_eq, Extract.visits, Extract.context, opened, assembly,
    (split_at_place inner _).2, List.filter_append, List.filter_cons_of_pos isMemberStill,
    renderNodes_around head]

/-- A part in the midst of the tree: around it stands what does not depend on it, it is shown unless
the way leads through a `paramref`, and its context is that of the tree unless the way leads through
a document. -/
theorem Reached.exists_frame (reached : Reached table previous node path visit)
    (context : Option String) :
    ∃ frame : Frame, ∃ inner : Option String,
      (¬ LeadsThrough table "paramref" previous node path → frame.shows = true) ∧
      (¬ LeadsThrough table "doc" previous node path → inner = context) ∧
      ∀ new, new.tag? = some visit.tag →
        renderNode table context previous (node.replaceAt path new) =
          frame.fill (renderNode table inner visit.previous new) := by
  induction reached generalizing context with
  | here previous tag children =>
    exact ⟨.bare, context, fun _ => rfl, fun _ => rfl, fun new _ => (Frame.fill_bare _).symm⟩
  | @child previous tag children rule i part path visit found rendersBody place below ih =>
    obtain ⟨frame, inner, shows, same, filled⟩ := ih context
    obtain ⟨before, after, around⟩ := exists_neighbours_of_child found rendersBody place context
    obtain ⟨slot, own⟩ := Extract.exists_bodySlot rendersBody.opensBody
    have above {name : String} :=
      @LeadsThrough.child _ _ _ _ _ path name found rendersBody _ _ place
    obtain ⟨name, -, original⟩ := rendersBody
    obtain ⟨showsHere, lead, trail, uncovered, applied⟩ :=
      TagRule.exists_around original own tag children context
    refine ⟨frame.within before after showsHere lead trail, inner, ?_, ?_, ?_⟩
    · intro apart
      have here : showsHere = true := by
        apply uncovered
        intro isReference
        exact apart (.here (found.trans (isReference ▸ original).symm))
      have there : frame.shows = true := shows fun through => apart (above through)
      simp [Frame.within, here, there]
    · intro apart
      exact same fun through => apart (above through)
    · intro new head
      rw [around path new (below.tag?_replaceAt head), filled new head, funext applied,
        Frame.fill_within]
  | @member previous tag children rule i j members parts part path visit found rendersMembers place
      named first inner isMember below ih =>
    obtain ⟨frame, inForce, shows, -, filled⟩ := ih (some (assemblyName children))
    obtain ⟨before, after, around⟩ :=
      exists_neighbours_of_member found rendersMembers place named first inner isMember context
    have own : rule.extract.bodySlot? = some 1 := rendersMembers.extract_eq ▸ rfl
    obtain ⟨showsHere, lead, trail, uncovered, applied⟩ :=
      TagRule.exists_around rendersMembers own tag children context
    refine ⟨frame.within before after showsHere lead trail, inForce, ?_, ?_, ?_⟩
    · intro apart
      have here : showsHere = true := uncovered (by decide)
      have there : frame.shows = true := shows fun through =>
        apart (through.member found rendersMembers place named first inner isMember)
      simp [Frame.within, here, there]
    · intro apart
      exact absurd (.here (found.trans rendersMembers.symm)) apart
    · intro new head
      rw [around path new (below.tag?_replaceAt head), filled new head, funext applied,
        Frame.fill_within]

end MemberDocs.Markdown
