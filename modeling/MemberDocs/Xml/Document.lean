import MemberDocs.Doc.Builder
import MemberDocs.Text.Utf8
import MemberDocs.Xml.Content
import MemberDocs.Xml.Declaration
import MemberDocs.Xml.Doctype.Subset
import MemberDocs.Xml.Encoding

/-! # Documents

A document is a prolog, an element and what may follow it. `parseBytes` reads a document from bytes,
in the encoding that they show or declare; `parseText` reads one from a text, whatever encoding it
declares. A document is read up to its first fault.
-/

namespace MemberDocs.Xml

/-- The fault of a source that ends where markup has to follow. -/
def Ending.fault (ending : Ending) : Fault :=
  match ending with
  | .complete => .noElement
  | .oddByte => .unclosedToken
  | .truncated _ => .partialCharacter
  | .malformed _ _ => .invalidToken

/-- The place of a fault in a literal whose opening quote is at `position`; without a rest it is the
place of the literal. -/
def Snag.placeInLiteral (snag : Snag) (position : Position) (quote : Char) (text : List Char) :
    Position :=
  match snag.rest with
  | none => position
  | some rest => position.after (quote :: text.take (text.length - rest.length))

/-- The place of a fault that a role has found. -/
def Role.place (role : Role) (snag : Snag) (position : Position) : Position :=
  match role with
  | .entityValue quote text | .default quote text => snag.placeInLiteral position quote text
  | .doctypePublic text | .publicIdentifier text => snag.placeInLiteral position '"' text
  | _ => position

/-- The fault of a token that has no place in the prolog. -/
def misplacedFault : DeclToken → Fault
  | .parameterReference => .parameterReference
  | .instruction target =>
    if target = Scan.declarationTarget then .misplacedDeclaration else .syntaxError
  | _ => .syntaxError

/-- Counts what stands in front of the rest of a source that starts at `position`. -/
def Account.chargeFront (account : Account) (scheme : Scheme) (position : Position)
    (source rest : List Char) : Except PlacedFault Account :=
  account.chargeParts .direct scheme [(source.take (source.length - rest.length), position)]

/-- Reads the prolog, up to the document element: gives what has been declared, and the place and
the source of the element. `skip` counts the characters of the last token that are still in
front. -/
def readProlog (context : Context) (phase : Phase) (subset : Subset) (skip : Nat)
    (position : Position) : List Char → Except PlacedFault (Subset × Position × List Char)
  | [] => .error (context.ending.fault, position)
  | c :: rest =>
    let next := position.step c rest
    match skip with
    | skip + 1 => readProlog context phase subset skip next rest
    | 0 =>
      match DeclToken.scan context (c :: rest) with
      | .error stop => .error (stop.snag.fault, stop.snag.place position (c :: rest))
      | .ok (token, left) =>
        let leads := phase.next? subset.groups.length token
        if leads.any (·.2 = .element) then .ok (subset, position, c :: rest)
        else
          match subset.account.chargeFront context.scheme position (c :: rest) left with
          | .error fault => .error fault
          | .ok account =>
            match leads with
            | none => .error (misplacedFault token, position)
            | some (nextPhase, role) =>
              match { subset with account }.act context.scheme role with
              | .error snag => .error (snag.fault, role.place snag position)
              | .ok subset =>
                readProlog context nextPhase subset (rest.length - left.length) next rest

/-- Looks for a fault in what follows the document element, where only white space, comments and
processing instructions may stand. -/
def epilogFault (context : Context) (account : Account) (skip : Nat) (position : Position) :
    List Char → Option PlacedFault
  | [] => if context.ending = .complete then none else some (context.ending.fault, position)
  | c :: rest =>
    let next := position.step c rest
    match skip with
    | skip + 1 => epilogFault context account skip next rest
    | 0 =>
      match DeclToken.scan context (c :: rest) with
      | .error stop => some (stop.snag.fault, stop.snag.place position (c :: rest))
      | .ok (token, left) =>
        match account.chargeFront context.scheme position (c :: rest) left with
        | .error fault => some fault
        | .ok account =>
          let isAllowed :=
            match token with
            | .space | .comment => true
            | .instruction target => target ≠ Scan.declarationTarget
            | _ => false
          if isAllowed then epilogFault context account (rest.length - left.length) next rest
          else some (.junkAfterDocument, position)

/-- The events of a document element, given what has been declared; faults after the element are
looked for too. -/
def readElement (context : Context) (dtd : Dtd) (account : Account) (position : Position)
    (source : List Char) : Except PlacedFault (List Event) :=
  let (tokens, ending) := tokensFrom context (some 0) false 0 position source
  match readTokens dtd context.scheme account tokens with
  | .error fault => .error fault
  | .ok reading =>
    match ending with
    | .faulty fault place => .error (fault, place)
    | .ended place => .error (context.ending.fault, place)
    | .closed place rest =>
      match epilogFault context reading.account 0 place rest with
      | some fault => .error fault
      | none => .ok reading.events.reverse

/-- The events of a document whose XML declaration has been read. -/
def readDocument (context : Context) (subset : Subset) (position : Position)
    (source : List Char) : Except PlacedFault (List Event) :=
  match readProlog context .prolog subset 0 position source with
  | .error fault => .error fault
  | .ok (subset, position, source) =>
    readElement context subset.dtd subset.account position source

/-- The XML declaration at the front of a source: what stands between its marks, and the rest of the
source. -/
def declarationAtFront? (context : Context) : List Char → Option (List Char × List Char)
  | '<' :: '?' :: cs =>
    match Scan.instruction context cs with
    | .ok ((target, body), left) =>
      if target = Scan.declarationTarget then some (body, left) else none
    | .error _ => none
  | _ => none

/-- What the encoding that a declaration names means for a source that has been read so far in
`current`. -/
inductive Switch where
  /-- The source goes on as it began. -/
  | stay
  /-- The source goes on in another encoding. -/
  | switch (encoding : Encoding)
  /-- The declaration is wrong. -/
  | fault (fault : Fault)
  /-- The encoding cannot be used. -/
  | failure (error : EncodingError)

/-- Decides how a source goes on after its declaration. Two encodings with names of their own have to
agree in the size and the order of their units. -/
def Switch.decide (current : Encoding) (name : List Char) : Switch :=
  match Encoding.named current (String.ofList name) with
  | some encoding =>
    if encoding = current then .stay
    else if encoding.unitBytes ≠ current.unitBytes || encoding.unitBytes = 2 then
      .fault .wrongEncoding
    else .switch encoding
  | none =>
    match findCodePage (String.ofList name) with
    | .page table => .switch (.page table)
    | .foreignMarkup => .fault .unknownEncoding
    | .failure error => .failure error

/-- A placed fault as a parse error. -/
def ParseError.ofFault (fault : PlacedFault) : ParseError :=
  .malformed fault.1 fault.2

/-- The events of a document in bytes. With `isText` the bytes are those of a text, and its
declaration does not say how to read it. -/
def readBytes (isText : Bool) (bytes : List UInt8) : Except ParseError (List Event) :=
  match Encoding.detect bytes with
  | .undecided => .error (.malformed .unclosedToken .start)
  | .encoding encoding mark =>
    let (source, ending) := encoding.decode (bytes.drop mark)
    let context : Context := ⟨encoding.scheme, ending⟩
    let position : Position := if mark = 0 then .start else ⟨1, 2⟩
    match declarationAtFront? context source with
    | none =>
      let subset : Subset := { account := { direct := mark } }
      (readDocument context subset position source).mapError .ofFault
    | some (body, rest) =>
      let opening := "<?xml".toList
      let placeOf (left : List Char) : Position :=
        position.after (opening ++ body.take (body.length - left.length))
      match Declaration.parse body with
      | .error left => .error (.malformed .malformedDeclaration (placeOf left))
      | .ok declaration =>
        let lexeme := opening ++ body ++ ['?', '>']
        let read := mark + lexeme.length * encoding.unitBytes
        let subset : Subset :=
          { dtd := { standalone := declaration.standalone }, account := { direct := read } }
        let stay := (readDocument context subset (position.after lexeme) rest).mapError .ofFault
        match declaration.encoding with
        | none => stay
        | some (name, left) =>
          if isText then stay
          else
            match Switch.decide encoding name with
            | .stay => stay
            | .fault fault => .error (.malformed fault (placeOf left))
            | .failure error => .error (.encoding error)
            | .switch encoding' =>
              let (source, ending) := encoding'.decode (bytes.drop read)
              let before := (bytes.take read).map fun b => Char.ofNat b.toNat
              (readDocument ⟨encoding'.scheme, ending⟩ subset (Position.start.after before)
                source).mapError .ofFault

/-- The document element of a document's events. -/
def elementOfEvents (events : Except ParseError (List Event)) : Except ParseError Element :=
  match events with
  | .error error => .error error
  | .ok events =>
    match Element.ofEvents? events with
    | some element => .ok element
    | none => .error (.malformed .noElement {})

/-- The document element of a document in bytes. -/
def parseBytes (bytes : List UInt8) : Except ParseError Element :=
  elementOfEvents (readBytes false bytes)

/-- The document element of a document in a text. -/
def parseText (source : String) : Except ParseError Element :=
  elementOfEvents (readBytes true (Text.encodeUtf8 source))

end MemberDocs.Xml
