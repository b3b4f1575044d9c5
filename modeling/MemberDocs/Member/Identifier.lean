import MemberDocs.Text.Replace

/-! # Member identifiers

An identifier names a member of an assembly by a kind letter, a colon and a qualified name, such as
`T:Lib.Shape`. This module reads the kind (`MemberKind.ofIdentifier?`), writes the label that stands
in a heading (`memberLabel`), and takes the simple name from the end of a reference
(`simpleName`).
-/

namespace MemberDocs

/-- The kinds of members that are documented. -/
inductive MemberKind where
  | field
  | property
  | type
  | event
  | method
deriving DecidableEq, Repr

namespace MemberKind

/-- The name of a kind as a heading shows it. -/
def label : MemberKind → String
  | field => "Field"
  | property => "Property"
  | type => "Type"
  | event => "Event"
  | method => "Method"

/-- The name of the rule that renders members of a kind. -/
def ruleName : MemberKind → String
  | field => "field"
  | property => "property"
  | type => "type"
  | event => "event"
  | method => "method"

/-- The kind that a capital letter stands for. -/
def ofLetter? : Char → Option MemberKind
  | 'F' => some field
  | 'P' => some property
  | 'T' => some type
  | 'E' => some event
  | 'M' => some method
  | _ => none

/-- The kind of the member that an identifier names: its first letter, of either case, is a kind
letter and a colon follows. -/
def ofIdentifier? (identifier : String) : Option MemberKind :=
  match identifier.toList with
  | letter :: ':' :: _ => ofLetter? letter.toUpper
  | _ => none

end MemberKind

/-- The label of an identifier whose assembly name has been taken out: a capital kind letter and
its colon are written as the name of the kind and a space. -/
def expandKindLetter (identifier : List Char) : List Char :=
  match identifier with
  | letter :: ':' :: rest =>
    match MemberKind.ofLetter? letter with
    | some kind => kind.label.toList ++ ' ' :: rest
    | none => identifier
  | _ => identifier

/-- The label of a member. A namespace that is called as the assembly is left out wherever it
follows a colon; without an assembly name, or with an empty one, nothing is left out. -/
def memberLabel (identifier : String) (assembly : Option String) : String :=
  let name := (assembly.getD "").toList
  let shortened :=
    if name.isEmpty then identifier.toList
    else Text.replaceChars (':' :: name ++ ['.']) [':'] 0 identifier.toList
  String.ofList (expandKindLetter shortened)

/-- The characters after the last dot. -/
def afterLastDot : List Char → List Char
  | [] => []
  | c :: rest => if rest.contains '.' then afterLastDot rest else if c = '.' then rest else c :: rest

/-- The simple name at the end of a qualified reference: what follows the last dot, or all of it,
after a one-character kind and its colon. -/
def simpleName (reference : String) : String :=
  let cs := reference.toList
  let qualified :=
    match cs with
    | _ :: ':' :: c :: rest => c :: rest
    | _ => cs
  String.ofList (afterLastDot qualified)

end MemberDocs
