import MemberDocs.Xml.Doctype.Grammar
import MemberDocs.Xml.Entity

/-! # Declarations

What the declarations of a document type say. Tokens come in the order that
`MemberDocs.Xml.Phase` gives; each has a role, and `Subset.act` does what it asks for. The first
declaration of an entity or of a default counts. After a reference to a parameter entity, which is
not read, declarations are passed over, unless the document is standalone.
-/

namespace MemberDocs.Xml

/-- A document type declaration that is being read. -/
structure Subset where
  dtd : Dtd := {}
  /-- What parts the members of each open group of a content model: true for commas. -/
  groups : List (Option Bool) := []
  /-- The entity that is being declared, if its declaration counts. -/
  entity : Option (List Char) := none
  /-- The element whose attributes are being declared. -/
  element : List Char := []
  attributeName : List Char := []
  isText : Bool := false
  isIdentifier : Bool := false
  /-- Declarations count. -/
  counts : Bool := true
  /-- How much has been read of the document. -/
  account : Account := {}
deriving DecidableEq, Repr

/-- Characters of public identifiers. -/
def isPublicChar (c : Char) : Bool :=
  isAsciiLetter c || isAsciiDigit c || c = ' ' || c = '\r' || c = '\n' ||
    "-'()+,./:=?;!*#@$_%".toList.contains c

/-- A public identifier holds no other characters than it may. -/
def checkPublic (text : List Char) : Except Snag Unit :=
  match text.dropWhile isPublicChar with
  | [] => .ok ()
  | bad => .error ⟨.badPublicIdentifier, some bad⟩

/-- The text of an entity: character numbers are replaced, references to entities are only looked at
for their form, and line endings are read. `skip` counts the characters of a character number that
are still in front. -/
def entityText (scheme : Scheme) (skip : Nat) : List Char → Except Snag (List Char)
  | [] => .ok []
  | c :: rest =>
    match skip with
    | skip + 1 => entityText scheme skip rest
    | 0 =>
      let context : Context := ⟨scheme, .complete⟩
      if c = '&' then
        match Scan.reference context rest with
        | .error (.invalid at_) => .error ⟨.invalidToken, some at_⟩
        | .error _ => .error ⟨.invalidToken, some (c :: rest)⟩
        | .ok (.character digits, _) =>
          match numberedChar? digits with
          | none => .error ⟨.badCharacterNumber, some (c :: rest)⟩
          | some d =>
            (entityText scheme ((Token.character digits).lexeme.length - 1) rest).map (d :: ·)
        | .ok _ => (entityText scheme 0 rest).map (c :: ·)
      else if c = '%' then
        match DeclToken.scanPercent context rest with
        | .error (.invalid at_) => .error ⟨.invalidToken, some at_⟩
        | .error _ => .error ⟨.invalidToken, some (c :: rest)⟩
        | .ok (.parameterReference, _) => .error ⟨.parameterReference, some (c :: rest)⟩
        | .ok _ => .error ⟨.invalidToken, some rest⟩
      else if c = '\r' then
        if rest.head? = some '\n' then entityText scheme 0 rest
        else (entityText scheme 0 rest).map ('\n' :: ·)
      else (entityText scheme 0 rest).map (c :: ·)

namespace Dtd

/-- Declares an entity, or what an entity declared before stands for. -/
def setEntity (dtd : Dtd) (name : List Char) (entity : Entity) : Dtd :=
  { dtd with entities := (name, entity) :: dtd.entities.filter (·.1 ≠ name) }

/-- Declares an attribute of an element after those declared before. -/
def addAttribute (dtd : Dtd) (element : List Char) (a : AttributeDeclaration) : Dtd :=
  let before := (dtd.attributes.lookup element).getD []
  { dtd with
    attributes := (element, before ++ [a]) :: dtd.attributes.filter (·.1 ≠ element) }

end Dtd

namespace Subset

/-- Declares the attribute that has been read. A default, or an identifier, counts only if the
attribute has not been declared before. -/
def declareAttribute (subset : Subset) (isIdentifier : Bool) (default : Option (List Char)) :
    Subset :=
  let known := (subset.dtd.attribute? subset.element subset.attributeName).isSome
  if (default.isSome || isIdentifier) && known then subset
  else
    { subset with
      dtd := subset.dtd.addAttribute subset.element ⟨subset.attributeName, subset.isText, default⟩ }

/-- Sets what parts the members of the innermost open group; one group has one kind of part. -/
def separate (subset : Subset) (comma : Bool) : Except Snag Subset :=
  match subset.groups with
  | [] => .ok subset
  | separator :: outer =>
    if separator = some (!comma) then .error ⟨.syntaxError, none⟩
    else .ok { subset with groups := some comma :: outer }

/-- Does what a token asks for by its role. A fault inside a literal is placed by what is left of
the literal's text. -/
def act (subset : Subset) (scheme : Scheme) : Role → Except Snag Subset
  | .nothing | .element => .ok subset
  | .doctypePublic text => do
    checkPublic text
    .ok { subset with dtd := { subset.dtd with isOpen := true } }
  | .doctypeSystem => .ok { subset with dtd := { subset.dtd with isOpen := true } }
  | .entityName name =>
    if (predefinedEntity? name).isSome || !subset.counts ||
        (subset.dtd.entities.lookup name).isSome then
      .ok { subset with entity := none }
    else
      .ok { subset with entity := some name, dtd := subset.dtd.setEntity name .external }
  | .parameterEntityName => .ok { subset with entity := none }
  | .entityValue _ text =>
    if subset.counts then
      match entityText scheme 0 text with
      | .error snag => .error snag
      | .ok replacement =>
        match subset.entity with
        | none => .ok subset
        | some name =>
          .ok { subset with dtd := subset.dtd.setEntity name (.internal replacement) }
    else .ok subset
  | .publicIdentifier text => do
    checkPublic text
    .ok subset
  | .entitySystem => .ok subset
  | .entityNotation =>
    match subset.entity with
    | some name =>
      if subset.counts then .ok { subset with dtd := subset.dtd.setEntity name .unparsed }
      else .ok subset
    | none => .ok subset
  | .attributesElement name => .ok { subset with element := name }
  | .attributeName name =>
    .ok { subset with attributeName := name, isText := false, isIdentifier := false }
  | .attributeType isText isIdentifier =>
    .ok { subset with isText := isText, isIdentifier := isIdentifier }
  | .noDefault =>
    if subset.counts then .ok (subset.declareAttribute subset.isIdentifier none) else .ok subset
  | .default _ text =>
    if subset.counts then
      -- The literal has been counted with its quotes.
      match subset.dtd.attributeValue true subset.isText .counted [] scheme subset.account text with
      | .error snag => .error snag
      | .ok (value, account) =>
        .ok { subset.declareAttribute false (some value) with account }
    else .ok subset
  | .groupOpen => .ok { subset with groups := none :: subset.groups }
  | .groupClose => .ok { subset with groups := subset.groups.tail }
  | .groupComma => subset.separate true
  | .groupBar => subset.separate false
  | .parameterReference =>
    .ok { subset with
      dtd := { subset.dtd with isOpen := true }, counts := subset.dtd.standalone }

end Subset

end MemberDocs.Xml
