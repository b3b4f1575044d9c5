import MemberDocs.Doc.Node
import MemberDocs.Markdown.CodeBlock
import MemberDocs.Markdown.Template
import MemberDocs.Member.Identifier
import MemberDocs.Text.Lowercase

/-! # Rules for tags

A rule says how one kind of element becomes Markdown: a template, and the extract of the element
that fills its slots. An extract renders at most one list of parts of its element
(`Extract.visits`), in a context that is the assembly name in force (`Extract.context`); the rest of
what it gives comes from the element itself (`Extract.values`). The rules are kept in a table by the
name under which an element is looked up (`effectiveName`).
-/

namespace MemberDocs.Markdown

/-- What a rule takes from an element. -/
inductive Extract where
  /-- The rendered children. -/
  | body
  /-- An attribute, then the rendered children. -/
  | attributeAndBody (key : String)
  /-- The label of a member, then the rendered children. -/
  | member
  /-- The assembly name of a document, then its rendered members. -/
  | document
  /-- The target of an anchor in lower case, then the rendered children. -/
  | anchor
  /-- The name of what is referred to. -/
  | reference
  /-- An attribute. -/
  | attributeAlone (key : String)
  /-- A keyword: the reference of the element, or its text. -/
  | keyword
  /-- The language, then the code. -/
  | code
  /-- Nothing. -/
  | nothing
deriving DecidableEq, Repr

/-- The assembly name that a document states: the text of the first `name` in its first
`assembly`, empty if there is none. -/
def assemblyName (children : List Node) : String :=
  match Node.child? "assembly" children with
  | none => ""
  | some assembly =>
    match Node.child? "name" assembly.children with
    | none => ""
    | some name => name.textContent

/-- The members of a document: the `member` elements in its first `members`. -/
def documentMembers (children : List Node) : List Node :=
  match Node.child? "members" children with
  | none => []
  | some members => members.children.filter (Node.isNamed "member")

/-- The name by which an element refers to something: the end of its `cref`, else its `href`,
else its text. -/
def referenceLabel (tag : Tag) (children : List Node) : String :=
  match tag.attribute? "cref" with
  | some cref => simpleName cref
  | none =>
    match tag.attribute? "href" with
    | some href => href
    | none => Node.textContentAll children

namespace Extract

/-- The parts below an element that are rendered for its rule. -/
def visits (extract : Extract) (children : List Node) : List Node :=
  match extract with
  | body | attributeAndBody _ | member | anchor => children
  | document => documentMembers children
  | reference | attributeAlone _ | keyword | code | nothing => []

/-- The assembly name in force for the parts that are rendered: a document replaces the one from
outside by its own. -/
def context (extract : Extract) (children : List Node) (outer : Option String) : Option String :=
  match extract with
  | document => some (assemblyName children)
  | _ => outer

/-- The values for the slots, given the rendering of the parts that are visited. -/
def values (extract : Extract) (tag : Tag) (children : List Node) (outer : Option String)
    (rendered : String) : List String :=
  match extract with
  | body => [rendered]
  | attributeAndBody key => [tag.attributeOrEmpty key, rendered]
  | member => [memberLabel (tag.attributeOrEmpty "name") outer, rendered]
  | document => [assemblyName children, rendered]
  | anchor => [Text.lower (tag.attributeOrEmpty "cref"), rendered]
  | reference => [referenceLabel tag children]
  | attributeAlone key => [tag.attributeOrEmpty key]
  | keyword => [(tag.attribute? "cref").getD (Node.textContentAll children)]
  | code => [tag.attributeOrEmpty "lang", codeBlock (Node.textContentAll children)]
  | nothing => []

theorem sizeOf_documentMembers_le (children : List Node) :
    sizeOf (documentMembers children) ≤ sizeOf children := by
  unfold documentMembers
  split
  next => exact Node.sizeOf_nil_le children
  next members found =>
    have smaller := Node.sizeOf_children_lt_of_child? found
    have filtered := Node.sizeOf_filter_le (Node.isNamed "member") members.children
    omega

/-- What is visited is no larger than the children of the element. -/
theorem sizeOf_visits_le (extract : Extract) (children : List Node) :
    sizeOf (extract.visits children) ≤ sizeOf children := by
  cases extract with
  | document => exact sizeOf_documentMembers_le children
  | body | attributeAndBody | member | anchor => exact Nat.le_refl _
  | reference | attributeAlone | keyword | code | nothing => exact Node.sizeOf_nil_le children

end Extract

/-- A rule: what is taken from an element, and the template that shows it. -/
structure TagRule where
  template : Template
  extract : Extract
deriving DecidableEq, Repr

/-- The prefix of a reference to an anchor on the same page. -/
def anchorMark : String := "!:#"

/-- The name under which an element is looked up. A member goes by its kind, a `see` by what it
refers to, and a parameter that does not follow a `param` opens a table; `previous` is the nearest
element before it among its siblings. -/
def effectiveName (tag : Tag) (previous : Option Tag) : String :=
  if tag.name = "member" then
    match (tag.attribute? "name").bind MemberKind.ofIdentifier? with
    | some kind => kind.ruleName
    | none => "none"
  else if tag.name = "see" then
    if (tag.attribute? "langword").isSome then "see-langword"
    else
      match tag.attribute? "cref" with
      | some cref =>
        if anchorMark.toList.isPrefixOf cref.toList then "see-anchor" else "see-page"
      | none => "see-page"
  else if "param".toList.isSuffixOf tag.name.toList && previous.all (·.name ≠ "param") then
    "first-param"
  else tag.name

/-- Rules by the name under which elements are looked up. -/
abbrev RuleTable := List (String × TagRule)

namespace RuleTable

/-- The rule for a name. -/
def find? (table : RuleTable) (name : String) : Option TagRule :=
  table.lookup name

/-- The table in which `name` has the given rule. -/
def insert (table : RuleTable) (name : String) (rule : TagRule) : RuleTable :=
  (name, rule) :: table.filter (·.1 ≠ name)

/-- The table without the rules for some names. -/
def erase (table : RuleTable) (names : List String) : RuleTable :=
  table.filter fun entry => !names.contains entry.1

end RuleTable

/-- The rows of a parameter table. -/
def rowTemplate : Template :=
  [.literal "|", .slot 0, .literal ": |", .slot 1, .literal "|\n"]

/-- The section of a member other than a type. -/
def memberTemplate : Template :=
  [.literal "#### ", .slot 0, .literal "\n\n", .slot 1, .literal "\n\n---\n"]

/-- The rules for the documentation tags of a compiler. -/
def standardRules : RuleTable :=
  [("doc", ⟨[.literal "# ", .slot 0, .literal " #\n\n", .slot 1, .literal "\n\n"], .document⟩),
   ("type", ⟨[.literal "## ", .slot 0, .literal "\n\n", .slot 1, .literal "\n\n---\n"], .member⟩),
   ("field", ⟨memberTemplate, .member⟩),
   ("property", ⟨memberTemplate, .member⟩),
   ("method", ⟨memberTemplate, .member⟩),
   ("event", ⟨memberTemplate, .member⟩),
   ("summary", ⟨[.slot 0, .literal "\n\n"], .body⟩),
   ("value", ⟨[.literal "**Value**: ", .slot 0, .literal "\n\n"], .body⟩),
   ("remarks", ⟨[.literal "\n\n>", .slot 0, .literal "\n\n"], .body⟩),
   ("example", ⟨[.literal "##### Example: ", .slot 0, .literal "\n\n"], .body⟩),
   ("para", ⟨[.slot 0, .literal "\n\n"], .body⟩),
   ("code",
    ⟨[.literal "\n\n###### ", .slot 0, .literal " code\n\n```\n", .slot 1, .literal "\n```\n\n"],
     .code⟩),
   ("see-page", ⟨[.literal "[[", .slot 1, .literal "|", .slot 0, .literal "]]"],
     .attributeAndBody "cref"⟩),
   ("see-anchor", ⟨[.literal "[", .slot 1, .literal "](", .slot 0, .literal ")]"], .anchor⟩),
   ("first-param", ⟨.literal "|Name | Description |\n|-----|------|\n" :: rowTemplate,
     .attributeAndBody "name"⟩),
   ("typeparam", ⟨rowTemplate, .attributeAndBody "name"⟩),
   ("param", ⟨rowTemplate, .attributeAndBody "name"⟩),
   ("paramref", ⟨[.literal "`", .slot 0, .literal "`"], .attributeAndBody "name"⟩),
   ("exception", ⟨[.literal "[[", .slot 0, .literal "|", .slot 0, .literal "]]: ", .slot 1,
     .literal "\n\n"], .attributeAndBody "cref"⟩),
   ("returns", ⟨[.literal "**Returns**: ", .slot 0, .literal "\n\n"], .body⟩),
   ("c", ⟨[.literal " `", .slot 0, .literal "` "], .body⟩),
   ("inheritdoc", ⟨[.literal "*Inherits documentation from base.*\n\n"], .nothing⟩),
   ("see", ⟨[.literal "[`", .slot 0, .literal "`](", .slot 0, .literal ")"], .reference⟩),
   ("see-langword", ⟨[.literal "`", .slot 0, .literal "`"], .attributeAlone "langword"⟩),
   ("seealso", ⟨[.literal "**See also**: [`", .slot 0, .literal "`](", .slot 0, .literal ")\n\n"],
     .reference⟩),
   ("list", ⟨[.slot 0, .literal "\n\n"], .body⟩),
   ("item", ⟨[.literal "- ", .slot 0, .literal "\n"], .body⟩),
   ("term", ⟨[.literal "**", .slot 0, .literal "**: "], .body⟩),
   ("description", ⟨[.slot 0], .body⟩),
   ("listheader", ⟨[.slot 0, .literal "\n"], .body⟩),
   ("typeparamref", ⟨[.literal "`", .slot 0, .literal "`"], .attributeAlone "name"⟩),
   ("langword", ⟨[.literal "`", .slot 0, .literal "`"], .keyword⟩),
   ("none", ⟨[], .nothing⟩)]

end MemberDocs.Markdown
