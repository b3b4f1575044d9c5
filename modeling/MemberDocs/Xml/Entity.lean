import MemberDocs.Xml.Account
import MemberDocs.Xml.Token

/-! # Entities and attribute values

What a document type declares about entities and attributes (`Dtd`), and how the value of an
attribute is read with it: white space becomes spaces, references are replaced, and the values of
attributes that are not text lose the spaces at their ends and all but one of every run
(`Dtd.attributeValue`). Replacing entities is bounded in depth, since no entity may occur in itself,
and in size, by the account of what has been read.
-/

namespace MemberDocs.Xml

/-- What an entity stands for. -/
inductive Entity where
  /-- A text of the document itself. -/
  | internal (text : List Char)
  /-- Something outside of the document, which is not read. -/
  | external
  /-- Something outside of the document that is not markup. -/
  | unparsed
deriving DecidableEq, Repr

/-- A declared attribute: whether its values are text, and its default. -/
structure AttributeDeclaration where
  name : List Char
  isText : Bool
  default : Option (List Char)
deriving DecidableEq, Repr

/-- What a document type declares. -/
structure Dtd where
  entities : List (List Char × Entity) := []
  /-- The attributes of each element, in the order of their declarations. -/
  attributes : List (List Char × List AttributeDeclaration) := []
  /-- Some declarations may be in parts that are not read. -/
  isOpen : Bool := false
  /-- The document says that it does not depend on parts that are not read. -/
  standalone : Bool := false
deriving DecidableEq, Repr

/-- The characters that have entities without a declaration. -/
def predefinedEntity? (name : List Char) : Option Char :=
  if name = "lt".toList then some '<'
  else if name = "gt".toList then some '>'
  else if name = "amp".toList then some '&'
  else if name = "quot".toList then some '"'
  else if name = "apos".toList then some '\''
  else none

/-- The number that digits stand for. -/
def numberOf (base : Nat) (digits : List Char) : Nat :=
  digits.foldl (fun n c =>
    n * base +
      (if isAsciiDigit c then c.toNat - '0'.toNat
       else if 'a' ≤ c then c.toNat - 'a'.toNat + 10
       else c.toNat - 'A'.toNat + 10)) 0

/-- The character of a reference by number, if the number is that of a character that may stand in a
document. -/
def numberedChar? (digits : List Char) : Option Char :=
  let n :=
    match digits with
    | 'x' :: hex => numberOf 16 hex
    | _ => numberOf 10 digits
  if n.isValidChar then
    let c := Char.ofNat n
    if isDocumentChar c then some c else none
  else none

namespace Dtd

/-- An entity that is not declared is an error, since every declaration has been read or the
document does not depend on the others. -/
def isStrict (dtd : Dtd) : Bool :=
  !dtd.isOpen || dtd.standalone

/-- The declaration of an attribute of an element. -/
def attribute? (dtd : Dtd) (element name : List Char) : Option AttributeDeclaration :=
  ((dtd.attributes.lookup element).getD []).find? (·.name = name)

/-- The declared attributes of an element that have defaults. -/
def defaults (dtd : Dtd) (element : List Char) : List (List Char × List Char) :=
  ((dtd.attributes.lookup element).getD []).filterMap fun a =>
    a.default.map fun value => (a.name, value)

/-- The text that an entity stands for in the value of an attribute, where the entities `within`
are being replaced; nothing if it may be passed over. -/
def valueEntity (dtd : Dtd) (within : List (List Char)) (name : List Char) :
    Except Fault (Option (List Char)) :=
  match dtd.entities.lookup name with
  | none => if dtd.isStrict then .error .undefinedEntity else .ok none
  | some entity =>
    if within.contains name then .error .recursiveEntity
    else
      match entity with
      | .internal text => .ok (some text)
      | .external => .error .externalEntityInAttribute
      | .unparsed => .error .binaryEntity

end Dtd

/-- A value that is being read: its characters so far, the last first, the size of those at the end that
are still to be counted, and the account of what has been. -/
structure Filling where
  chars : List Char := []
  run : Nat := 0
  account : Account := {}
deriving DecidableEq, Repr

namespace Filling

def push (filling : Filling) (c : Char) : Filling :=
  { filling with chars := c :: filling.chars }

/-- Adds a space; in a value that is not text, not at the front and not after another one. -/
def pushSpace (filling : Filling) (isText : Bool) : Filling :=
  if !isText && (filling.chars = [] || filling.chars.head? = some ' ') then filling
  else filling.push ' '

/-- Adds a character that stands for a reference. -/
def pushPredefined (filling : Filling) (c : Char) : Filling :=
  { filling.push c with account := filling.account.add .indirect 1 }

/-- Counts a part of the value. -/
def count (filling : Filling) (tally : Tally) (size : Nat) : Except Snag Filling :=
  match filling.account.charge tally size with
  | none => .error ⟨.amplification, none⟩
  | some account => .ok { filling with account }

/-- Counts the characters that are still to be counted. -/
def settle (filling : Filling) (tally : Tally) : Except Snag Filling :=
  if filling.run = 0 then .ok filling else { filling with run := 0 }.count tally filling.run

/-- The value that has been read; one that is not text has no space at its end. -/
def finish (filling : Filling) (isText : Bool) : List Char :=
  match filling.chars with
  | ' ' :: before => if isText then filling.chars.reverse else before.reverse
  | chars => chars.reverse

end Filling

/-- A character of a value that neither starts a reference nor is white space. -/
def isPlainValueChar (c : Char) : Bool :=
  c ≠ '&' && c ≠ '<' && !isSpace c

/-- A value that is taken as it stands: with no reference in it, and no white space but single spaces
inside; `afterSpace` says that a space, or nothing, stands in front. -/
def isPlainValue (afterSpace : Bool) : List Char → Bool
  | [] => !afterSpace
  | c :: rest =>
    if c = ' ' then !afterSpace && isPlainValue true rest
    else isPlainValueChar c && isPlainValue false rest

/-- Reads the characters of a value. `replace` reads the text of an entity into the value. `isOuter`
says that the characters stand in the source, where faults have places, and not in the text of an
entity; `skip` counts the characters of a reference or of a line ending that are still in front. -/
def fillValue (dtd : Dtd) (replace : List Char → List Char → Filling → Except Snag Filling)
    (isOuter isText : Bool) (tally : Tally) (within : List (List Char)) (scheme : Scheme)
    (skip : Nat) (filling : Filling) : List Char → Except Snag Filling
  | [] => filling.settle tally
  | c :: rest =>
    let here := if isOuter then some (c :: rest) else none
    match skip with
    | skip + 1 => fillValue dtd replace isOuter isText tally within scheme skip filling rest
    | 0 =>
      if isPlainValueChar c then
        fillValue dtd replace isOuter isText tally within scheme 0
          { filling.push c with run := filling.run + scheme.bytes c } rest
      else
        match filling.settle tally with
        | .error snag => .error snag
        | .ok filling =>
          if c = '&' then
            match Scan.reference ⟨scheme, .complete⟩ rest with
            | .error (.invalid at_) => .error ⟨.invalidToken, if isOuter then some at_ else none⟩
            | .error _ => .error ⟨.invalidToken, here⟩
            | .ok (token, _) =>
              match filling.count tally (scheme.size token.lexeme) with
              | .error snag => .error snag
              | .ok filling =>
                let filled : Except Snag Filling :=
                  match token with
                  | .character digits =>
                    match numberedChar? digits with
                    | none => .error ⟨.badCharacterNumber, here⟩
                    | some ' ' => .ok (filling.pushSpace isText)
                    | some d => .ok (filling.push d)
                  | .entity name =>
                    match predefinedEntity? name with
                    | some d => .ok (filling.pushPredefined d)
                    | none =>
                      match dtd.valueEntity within name with
                      | .error .undefinedEntity => .error ⟨.undefinedEntity, none⟩
                      | .error fault => .error ⟨fault, here⟩
                      | .ok none => .ok filling
                      | .ok (some text) => replace name text filling
                  | _ => .ok filling
                match filled with
                | .error snag => .error snag
                | .ok filling =>
                  fillValue dtd replace isOuter isText tally within scheme
                    (token.lexeme.length - 1) filling rest
          else if c = '<' then .error ⟨.invalidToken, here⟩
          else
            let isReturn := c = '\r' && scheme ≠ .replacement
            let isPair := isReturn && rest.head? = some '\n'
            -- A return at the very end of a value is not counted.
            let size := if isPair then scheme.size [c, '\n']
              else if isReturn && rest.isEmpty then 0 else scheme.bytes c
            match filling.count tally size with
            | .error snag => .error snag
            | .ok filling =>
              fillValue dtd replace isOuter isText tally within scheme (if isPair then 1 else 0)
                (filling.pushSpace isText) rest

/-- Reads the text of an entity into a value, inside the entities `within`; `depth` bounds how far
entities are replaced within entities. -/
def replaceInValue (dtd : Dtd) (isText : Bool) : (depth : Nat) → (within : List (List Char)) →
    (name text : List Char) → Filling → Except Snag Filling
  | 0, _, _, _, _ => .error ⟨.recursiveEntity, none⟩
  | depth + 1, within, name, text, filling =>
    fillValue dtd (replaceInValue dtd isText depth (name :: within)) false isText .indirect
      (name :: within) .replacement 0 filling text

/-- The value of an attribute, with the account after it. The value stands in the source if `isOuter`,
and otherwise in the text of the entities `within`. -/
def Dtd.attributeValue (dtd : Dtd) (isOuter isText : Bool) (tally : Tally)
    (within : List (List Char)) (scheme : Scheme) (account : Account) (source : List Char) :
    Except Snag (List Char × Account) :=
  let depth := dtd.entities.length + 1
  match fillValue dtd (replaceInValue dtd isText depth within) isOuter isText tally within scheme 0
      { account } source with
  | .error snag => .error snag
  | .ok filling => .ok (filling.finish isText, filling.account)

end MemberDocs.Xml
