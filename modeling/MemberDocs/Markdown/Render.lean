import MemberDocs.Markdown.Rule

/-! # Rendering

Documentation becomes Markdown by one walk over the tree. A text is shown with its blanks collapsed.
An element is shown by the rule for its effective name: the parts that the rule visits are rendered,
one after the other, and fill its template with the rest of the extract. The walk stops at the first
element without a rule. `renderMarkdown` finishes the text by cutting long runs of line breaks.
-/

namespace MemberDocs.Markdown

/-- An element for which there is no rule. -/
structure UnknownTag where
  name : String
  position : Position
deriving DecidableEq, Repr

/-- The report of an unknown tag, with the source that it stands in if that is known. -/
def UnknownTag.message (tag : UnknownTag) (source : Option String) : String :=
  "Unknown element type \"" ++ tag.name ++ "\" (" ++
    (match source with
      | some source => source ++ ": "
      | none => "") ++
    "line " ++ toString tag.position.line ++ ", column " ++ toString tag.position.column ++ ")"

/-- Why a tree cannot be rendered. -/
inductive RenderError where
  /-- An element has no rule. -/
  | unknownTag (tag : UnknownTag)
  /-- A template has a slot that its extract has no value for. -/
  | emptySlot (index : Nat)
deriving DecidableEq, Repr

def RenderError.message : RenderError → String
  | unknownTag tag => tag.message none
  | emptySlot index =>
    "Replacement index " ++ toString index ++ " out of range for positional args tuple"

namespace TagRule

/-- The Markdown of an element under a rule, given the rendering of the parts it visits. -/
def apply (rule : TagRule) (tag : Tag) (children : List Node) (outer : Option String)
    (rendered : String) : Except RenderError String :=
  (rule.template.fill (rule.extract.values tag children outer rendered)).mapError .emptySlot

end TagRule

mutual

/-- The Markdown of a part of a tree under a table of rules, in the context of an assembly name and
of the nearest element before it. -/
def renderNode (rules : RuleTable) (context : Option String) (previous : Option Tag) :
    Node → Except RenderError String
  | .text content _ => .ok (Text.collapse content)
  | .element tag children =>
    match rules.find? (effectiveName tag previous) with
    | none => .error (.unknownTag ⟨effectiveName tag previous, tag.position⟩)
    | some rule =>
      match renderSiblings rules (rule.extract.context children context) none
          (rule.extract.visits children) with
      | .error e => .error e
      | .ok rendered => rule.apply tag children context rendered
termination_by node => sizeOf node
decreasing_by
  have := rule.extract.sizeOf_visits_le children
  simp
  omega

/-- The Markdown of neighbouring parts, one after the other. -/
def renderSiblings (rules : RuleTable) (context : Option String) (previous : Option Tag) :
    List Node → Except RenderError String
  | [] => .ok ""
  | node :: rest =>
    match renderNode rules context previous node with
    | .error e => .error e
    | .ok first =>
      match renderSiblings rules context (node.tag?.or previous) rest with
      | .error e => .error e
      | .ok others => .ok (first ++ others)
termination_by nodes => sizeOf nodes

end

/-- The Markdown of neighbouring parts that nothing precedes. -/
def renderNodes (rules : RuleTable) (context : Option String) (nodes : List Node) :
    Except RenderError String :=
  renderSiblings rules context none nodes

/-- The finished Markdown of a tree: runs of three or more line breaks are cut to two. -/
def renderMarkdown (rules : RuleTable) (context : Option String) (node : Node) :
    Except RenderError String :=
  (renderNode rules context none node).map Text.squeeze

end MemberDocs.Markdown
