import MemberDocs.Xml.Doctype.Token

/-! # The order of tokens outside of elements

Which token may come where before the document element: a `Phase` says what has been read, and
`Phase.next?` which phase a token leads to and what it does there (`Role`). A token that has no
place in a phase leads nowhere.
-/

namespace MemberDocs.Xml

/-- What has been read before the document element. -/
inductive Phase where
  /-- Nothing of a document type declaration. -/
  | prolog
  /-- All of the document type declaration. -/
  | afterDoctype
  | doctypeName
  | doctypeBody
  | doctypePublic
  | doctypeSystem
  | doctypeExternal
  | doctypeEnd
  | subset
  | entityStart
  | entityParameter
  | entityBody (parameter : Bool)
  | entityPublic (parameter : Bool)
  | entitySystem (parameter : Bool)
  | entityEnd (parameter : Bool)
  | entityNotation
  | notationName
  | notationBody
  | notationPublic
  | notationSystem
  | notationEnd
  | attributesElement
  | attributeName
  | attributeType
  | attributeValues
  | attributeMoreValues
  | attributeNotations
  | attributeNotation
  | attributeMoreNotations
  | attributeDefault
  | attributeFixed
  | elementName
  | elementContent
  | contentStart
  | mixedNext
  | mixedName
  /-- After a name of mixed content. -/
  | mixedMore
  | contentItem
  | contentNext
  | declarationEnd
deriving DecidableEq, Repr

/-- What a token does besides leading to the next phase. -/
inductive Role where
  | nothing
  | doctypePublic (text : List Char)
  | doctypeSystem
  | entityName (name : List Char)
  | parameterEntityName
  | entityValue (quote : Char) (text : List Char)
  | publicIdentifier (text : List Char)
  | entitySystem
  | entityNotation
  | attributesElement (name : List Char)
  | attributeName (name : List Char)
  | attributeType (isText isIdentifier : Bool)
  | noDefault
  | default (quote : Char) (text : List Char)
  | groupOpen
  | groupClose
  | groupComma
  | groupBar
  | parameterReference
  | element
deriving DecidableEq, Repr

namespace Phase

/-- The name is the given keyword. -/
def isKeyword (name : List Char) (keyword : String) : Bool :=
  name = keyword.toList

/-- The types of attributes other than enumerations. -/
def attributeTypes : List String :=
  ["CDATA", "ID", "IDREF", "IDREFS", "ENTITY", "ENTITIES", "NMTOKEN", "NMTOKENS"]

/-- Where a closing parenthesis leads when `depth` groups are open before it. -/
def afterGroup (depth : Nat) : Phase :=
  if depth ≤ 1 then declarationEnd else contentNext

/-- The next phase for a token other than white space; `depth` groups of a content model are
open. -/
def step? (phase : Phase) (depth : Nat) (token : DeclToken) : Option (Phase × Role) :=
  match phase, token with
  | prolog, .instruction _ | prolog, .comment => some (prolog, .nothing)
  | prolog, .opening word => if isKeyword word "DOCTYPE" then some (doctypeName, .nothing) else none
  | prolog, .element => some (prolog, .element)
  | afterDoctype, .instruction _ | afterDoctype, .comment => some (afterDoctype, .nothing)
  | afterDoctype, .element => some (afterDoctype, .element)
  | doctypeName, .name _ .once => some (doctypeBody, .nothing)
  | doctypeBody, .openBracket => some (subset, .nothing)
  | doctypeBody, .close => some (afterDoctype, .nothing)
  | doctypeBody, .name word .once =>
    if isKeyword word "SYSTEM" then some (doctypeSystem, .nothing)
    else if isKeyword word "PUBLIC" then some (doctypePublic, .nothing)
    else none
  | doctypePublic, .literal _ text => some (doctypeSystem, .doctypePublic text)
  | doctypeSystem, .literal _ _ => some (doctypeExternal, .doctypeSystem)
  | doctypeExternal, .openBracket => some (subset, .nothing)
  | doctypeExternal, .close => some (afterDoctype, .nothing)
  | doctypeEnd, .close => some (afterDoctype, .nothing)
  | subset, .instruction _ | subset, .comment => some (subset, .nothing)
  | subset, .opening word =>
    if isKeyword word "ENTITY" then some (entityStart, .nothing)
    else if isKeyword word "ATTLIST" then some (attributesElement, .nothing)
    else if isKeyword word "ELEMENT" then some (elementName, .nothing)
    else if isKeyword word "NOTATION" then some (notationName, .nothing)
    else none
  | subset, .parameterReference => some (subset, .parameterReference)
  | subset, .closeBracket => some (doctypeEnd, .nothing)
  | entityStart, .percent => some (entityParameter, .nothing)
  | entityStart, .name name .once => some (entityBody false, .entityName name)
  | entityParameter, .name _ .once => some (entityBody true, .parameterEntityName)
  | entityBody parameter, .name word .once =>
    if isKeyword word "SYSTEM" then some (entitySystem parameter, .nothing)
    else if isKeyword word "PUBLIC" then some (entityPublic parameter, .nothing)
    else none
  | entityBody _, .literal quote text => some (declarationEnd, .entityValue quote text)
  | entityPublic parameter, .literal _ text =>
    some (entitySystem parameter, .publicIdentifier text)
  | entitySystem parameter, .literal _ _ => some (entityEnd parameter, .entitySystem)
  | entityEnd _, .close => some (subset, .nothing)
  | entityEnd false, .name word .once =>
    if isKeyword word "NDATA" then some (entityNotation, .nothing) else none
  | entityNotation, .name _ .once => some (declarationEnd, .entityNotation)
  | notationName, .name _ .once => some (notationBody, .nothing)
  | notationBody, .name word .once =>
    if isKeyword word "SYSTEM" then some (notationSystem, .nothing)
    else if isKeyword word "PUBLIC" then some (notationPublic, .nothing)
    else none
  | notationPublic, .literal _ text => some (notationEnd, .publicIdentifier text)
  | notationSystem, .literal _ _ => some (declarationEnd, .nothing)
  | notationEnd, .literal _ _ => some (declarationEnd, .nothing)
  | notationEnd, .close => some (subset, .nothing)
  | attributesElement, .name name .once => some (attributeName, .attributesElement name)
  | attributeName, .close => some (subset, .nothing)
  | attributeName, .name name .once => some (attributeType, .attributeName name)
  | attributeType, .name word .once =>
    if attributeTypes.any (isKeyword word) then
      some (attributeDefault, .attributeType (isKeyword word "CDATA") (isKeyword word "ID"))
    else if isKeyword word "NOTATION" then some (attributeNotations, .nothing)
    else none
  | attributeType, .openParen => some (attributeValues, .nothing)
  | attributeValues, .word _ | attributeValues, .name _ .once =>
    some (attributeMoreValues, .nothing)
  | attributeMoreValues, .closeParen .once => some (attributeDefault, .nothing)
  | attributeMoreValues, .bar => some (attributeValues, .nothing)
  | attributeNotations, .openParen => some (attributeNotation, .nothing)
  | attributeNotation, .name _ .once => some (attributeMoreNotations, .nothing)
  | attributeMoreNotations, .closeParen .once => some (attributeDefault, .nothing)
  | attributeMoreNotations, .bar => some (attributeNotation, .nothing)
  | attributeDefault, .hashName word =>
    if isKeyword word "IMPLIED" || isKeyword word "REQUIRED" then some (attributeName, .noDefault)
    else if isKeyword word "FIXED" then some (attributeFixed, .nothing)
    else none
  | attributeDefault, .literal quote text => some (attributeName, .default quote text)
  | attributeFixed, .literal quote text => some (attributeName, .default quote text)
  | elementName, .name _ .once => some (elementContent, .nothing)
  | elementContent, .name word .once =>
    if isKeyword word "EMPTY" || isKeyword word "ANY" then some (declarationEnd, .nothing) else none
  | elementContent, .openParen => some (contentStart, .groupOpen)
  | contentStart, .hashName word =>
    if isKeyword word "PCDATA" then some (mixedNext, .nothing) else none
  | contentStart, .openParen => some (contentItem, .groupOpen)
  | contentStart, .name _ _ => some (contentNext, .nothing)
  | mixedNext, .closeParen .once | mixedNext, .closeParen .any =>
    some (declarationEnd, .groupClose)
  | mixedNext, .bar => some (mixedName, .nothing)
  | mixedName, .name _ .once => some (mixedMore, .nothing)
  | mixedMore, .closeParen .any => some (declarationEnd, .groupClose)
  | mixedMore, .bar => some (mixedName, .nothing)
  | contentItem, .openParen => some (contentItem, .groupOpen)
  | contentItem, .name _ _ => some (contentNext, .nothing)
  | contentNext, .closeParen _ => some (afterGroup depth, .groupClose)
  | contentNext, .comma => some (contentItem, .groupComma)
  | contentNext, .bar => some (contentItem, .groupBar)
  | declarationEnd, .close => some (subset, .nothing)
  | _, _ => none

/-- The next phase for a token: white space may stand anywhere, an XML declaration nowhere. -/
def next? (phase : Phase) (depth : Nat) (token : DeclToken) : Option (Phase × Role) :=
  match token with
  | .space => some (phase, .nothing)
  | .instruction target =>
    if target = Scan.declarationTarget then none else phase.step? depth token
  | _ => phase.step? depth token

end Phase

end MemberDocs.Xml
