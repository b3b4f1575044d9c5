import MemberDocs.Text.LineBreak
import MemberDocs.Xml.Entity
import MemberDocs.Xml.Event
import MemberDocs.Xml.Place

/-! # Content

From the source of an element to the events that tell it. `tokensFrom` cuts the source into placed
tokens, up to the end of the outermost element; `Reading.token` tells what a token means, with the
declared entities replaced. Character data is told in one event, with its line endings read, at the tag
that ends it, or where it has become too long to be held back until there (`Buffer`). Inside an entity
everything takes the place of the outermost reference.
-/

namespace MemberDocs.Xml

/-- A token and its place. -/
structure Placed where
  token : Token
  position : Position
deriving DecidableEq, Repr

/-- How the tokens of a source end. -/
inductive TokensEnd where
  /-- All characters have been read. -/
  | ended (position : Position)
  /-- The outermost element has ended before the rest. -/
  | closed (position : Position) (rest : List Char)
  /-- The source cannot be read on. -/
  | faulty (fault : Fault) (position : Position)
deriving DecidableEq, Repr

/-- The place of a snag in a part of a source that starts at `position`. -/
def Snag.place (snag : Snag) (position : Position) (source : List Char) : Position :=
  match snag.rest with
  | none => position
  | some rest => position.after (source.take (source.length - rest.length))

/-- How many more elements are open after a token than before it. -/
def Token.opens : Token → Int
  | .startTag _ _ _ empty => if empty then 0 else 1
  | .endTag _ _ => -1
  | _ => 0

/-- A tag, of either kind. -/
def Token.isTag : Token → Bool
  | .startTag _ _ _ _ | .endTag _ _ => true
  | _ => false

/-- The tokens of a source. With `depth`, the number of open elements, reading stops after the tag
that brings it to zero; `stopping` says that this tag is being passed. `skip` counts the characters
of the last token that are still in front. -/
def tokensFrom (context : Context) (depth : Option Int) (stopping : Bool) (skip : Nat)
    (position : Position) : List Char → List Placed × TokensEnd
  | [] => ([], if stopping && skip = 0 then .closed position [] else .ended position)
  | c :: rest =>
    let next := position.step c rest
    match skip with
    | skip + 1 => tokensFrom context depth stopping skip next rest
    | 0 =>
      if stopping then ([], .closed position (c :: rest))
      else
        match Token.scan context (c :: rest) with
        | .error snag => ([], .faulty snag.fault (snag.place position (c :: rest)))
        | .ok (token, _) =>
          let depth := depth.map (· + token.opens)
          let (more, ending) :=
            tokensFrom context depth (token.isTag && depth = some 0) (token.lexeme.length - 1) next
              rest
          (⟨token, position⟩ :: more, ending)

/-- The character data that is held back: how many bytes of it have come since the last tag, and where
they became too many. -/
structure Buffer where
  held : Nat := 0
  overflow : Option Position := none
deriving DecidableEq, Repr

namespace Buffer

/-- How many bytes are held back. -/
def capacity : Nat := 8192

/-- Holds back more bytes, which come at a place. -/
def hold (buffer : Buffer) (size : Nat) (position : Position) : Buffer :=
  let held := buffer.held + size
  ⟨held, buffer.overflow.or (if capacity < held then some position else none)⟩

end Buffer

/-- What has been read of content: the open elements, the innermost first, the character data since
the last tag and the events, the last first in both, what is held back of the data, and the account of
what has been read. -/
structure Reading where
  openNames : List (List Char) := []
  pending : List (List Char) := []
  buffer : Buffer := {}
  events : List Event := []
  account : Account := {}
deriving Repr

namespace Reading

/-- Adds character data, which comes in portions of some sizes, each at its place. -/
def addData (reading : Reading) (text : List Char) (portions : List (Nat × Position)) : Reading :=
  { reading with
    pending := text :: reading.pending
    buffer := portions.foldl (fun buffer portion => buffer.hold portion.1 portion.2)
      reading.buffer }

/-- Adds a character that stands for a reference. -/
def addChar (reading : Reading) (position : Position) (c : Char) : Reading :=
  reading.addData [c] [(c.utf8Size, position)]

/-- Adds an event at a place, after one with the character data before it, if there is any. -/
def tell (reading : Reading) (position : Position) (event : Event) : Reading :=
  let text := reading.pending.reverse.flatten
  let place := reading.buffer.overflow.getD position
  let before :=
    if text.isEmpty then reading.events else .data (String.ofList text) place :: reading.events
  { reading with pending := [], buffer := {}, events := event :: before }

end Reading

/-- The attributes of a start tag with the values that they have in the document, in the order of
the tag; `seen` holds those read, the last first, and `before` is the source of the tag before. A value
that is taken as it stands is not counted again. -/
def readAttributes (dtd : Dtd) (isOuter : Bool) (tally : Tally) (within : List (List Char))
    (scheme : Scheme) (element : List Char) (position : Position) (before : List Char)
    (seen : List (List Char × List Char)) (account : Account) :
    List RawAttribute → Except PlacedFault (List (List Char × List Char) × Account)
  | [] => .ok (seen.reverse, account)
  | a :: rest =>
    let upToName := before ++ a.lead
    if seen.any (·.1 = a.name) then
      .error (.duplicateAttribute, if isOuter then position.after upToName else position)
    else
      let isText := (dtd.attribute? element a.name).all (·.isText)
      let valueTally := if isPlainValue true a.value then .counted else tally
      match dtd.attributeValue isOuter isText valueTally within scheme account a.value with
      | .error snag =>
        let place :=
          match snag.rest with
          | none => position
          | some left =>
            position.after (upToName ++ a.name ++ a.middle ++ a.quote ::
              a.value.take (a.value.length - left.length))
        .error (snag.fault, place)
      | .ok (value, account) =>
        readAttributes dtd isOuter tally within scheme element position (before ++ a.lexeme)
          ((a.name, value) :: seen) account rest

/-- All attributes of an element: those of its tag, then the declared ones that have defaults. -/
def withDefaults (dtd : Dtd) (element : List Char) (given : List (List Char × List Char)) :
    Attributes :=
  let missing := (dtd.defaults element).filter fun d => !(given.any (·.1 = d.1))
  (given ++ missing).map fun a => (String.ofList a.1, String.ofList a.2)

/-- Where a token stands: in the source, or in the texts of entities. -/
structure Site where
  scheme : Scheme
  /-- The entities whose texts are being read, the innermost first. -/
  within : List (List Char) := []
  /-- How many elements were open where the innermost of these texts began. -/
  openBefore : Nat := 0
deriving DecidableEq, Repr

/-- The site is in the source. -/
def Site.isOuter (site : Site) : Bool :=
  site.within.isEmpty

/-- What the bytes of a site count as. -/
def Site.tally (site : Site) : Tally :=
  if site.isOuter then .direct else .indirect

/-- Parts of a site with their places, the first of them at `position`; everything in an entity has
the place of the reference. -/
def Site.place (site : Site) (position : Position) (parts : List (List Char)) :
    List (List Char × Position) :=
  if site.isOuter then placeParts position parts else parts.map fun part => (part, position)

/-- Character data at a site, with its line endings read if it stands in the source. -/
def Site.text (site : Site) (source : List Char) : List Char :=
  if site.scheme = .replacement then source else Text.unifyChars source

/-- The most bytes of character data that are translated at once, where the source is not written in
UTF-8. -/
def portionSize : Nat := 1024

/-- Cuts a text into portions, each with as many characters as it can take; `portion` is the first of
them so far, the last character first, and `size` its size. -/
def portionsFrom (portion : List Char) (size : Nat) : List Char → List (List Char)
  | [] => [portion.reverse]
  | c :: rest =>
    if size + c.utf8Size ≤ portionSize then portionsFrom (c :: portion) (size + c.utf8Size) rest
    else portion.reverse :: portionsFrom [c] c.utf8Size rest

/-- The portions in which character data is told, with their sizes and places. -/
def Site.portions (site : Site) (inSection : Bool) (position : Position) (source : List Char) :
    List (Nat × Position) :=
  let parts := dataParts site.scheme inSection source
  let portions := if site.scheme.isTranslated then parts.flatMap (portionsFrom [] 0) else parts
  (site.place position portions).map fun portion => (textSize (site.text portion.1), portion.2)

/-- The parts in which a token is counted. -/
def Token.parts (scheme : Scheme) : Token → List (List Char)
  | .text source => dataParts scheme false source
  | .cdata source =>
    "<![CDATA[".toList :: dataParts scheme true source ++ ["]]>".toList]
  | token => [token.lexeme]

/-- What a token means. `replace` reads the text of an entity. -/
def Reading.token (dtd : Dtd)
    (replace : List Char → List Char → Position → Reading → Except PlacedFault Reading)
    (site : Site) (position : Position) (reading : Reading) :
    Token → Except PlacedFault Reading
  | .text source => .ok (reading.addData (site.text source) (site.portions false position source))
  | .cdata source =>
    let inner := if site.isOuter then position.after "<![CDATA[".toList else position
    .ok (reading.addData (site.text source) (site.portions true inner source))
  | .character digits =>
    match numberedChar? digits with
    | none => .error (.badCharacterNumber, position)
    | some c => .ok (reading.addChar position c)
  | .entity name =>
    match predefinedEntity? name with
    | some c =>
      .ok { reading.addChar position c with account := reading.account.add .indirect 1 }
    | none =>
      match dtd.entities.lookup name with
      | none => if dtd.isStrict then .error (.undefinedEntity, position) else .ok reading
      | some entity =>
        if site.within.contains name then .error (.recursiveEntity, position)
        else
          match entity with
          | .internal text => replace name text position reading
          | .external => .ok reading
          | .unparsed => .error (.binaryEntity, position)
  | .startTag name attributes _ empty =>
    -- The tag of an empty element has been counted with the values in it.
    let tally := if empty then .counted else site.tally
    match readAttributes dtd site.isOuter tally site.within site.scheme name position ('<' :: name)
        [] reading.account attributes with
    | .error fault => .error fault
    | .ok (given, account) =>
      let tag : Tag := ⟨String.ofList name, withDefaults dtd name given, position⟩
      let started := { reading.tell position (.start tag) with account }
      if empty then .ok (started.tell position (.finish (String.ofList name)))
      else .ok { started with openNames := name :: started.openNames }
  | .endTag name _ =>
    if reading.openNames.length ≤ site.openBefore then .error (.unbalancedEntity, position)
    else
      match reading.openNames with
      | [] => .error (.unbalancedEntity, position)
      | current :: outer =>
        if current = name then
          .ok { reading.tell position (.finish (String.ofList name)) with openNames := outer }
        else
          .error (.mismatchedTag,
            if site.isOuter then position.after ['<', '/'] else position)
  | .comment _ => .ok reading
  | .instruction target _ =>
    if target = Scan.declarationTarget then .error (.misplacedDeclaration, position)
    else .ok reading

/-- Counts a token, then reads what it means. -/
def Reading.read (dtd : Dtd)
    (replace : List Char → List Char → Position → Reading → Except PlacedFault Reading)
    (site : Site) (position : Position) (reading : Reading) (token : Token) :
    Except PlacedFault Reading :=
  match reading.account.chargeParts site.tally site.scheme
      (site.place position (token.parts site.scheme)) with
  | .error fault => .error fault
  | .ok account => { reading with account }.token dtd replace site position token

/-- Reads the tokens of a site, one after the other. Tokens inside of entities all have the place
`place?`. -/
def Reading.tokens (dtd : Dtd)
    (replace : List Char → List Char → Position → Reading → Except PlacedFault Reading)
    (site : Site) (place? : Option Position) (reading : Reading) :
    List Placed → Except PlacedFault Reading
  | [] => .ok reading
  | placed :: rest =>
    match reading.read dtd replace site (place?.getD placed.position) placed.token with
    | .error fault => .error fault
    | .ok reading => reading.tokens dtd replace site place? rest

/-- Reads the text of an entity as content, inside the entities `within`; `depth` bounds how far
entities are replaced within entities. The elements of a text are all closed in it. -/
def replaceInContent (dtd : Dtd) : (depth : Nat) → (within : List (List Char)) →
    (name text : List Char) → Position → Reading → Except PlacedFault Reading
  | 0, _, _, _, position, _ => .error (.recursiveEntity, position)
  | depth + 1, within, name, text, position, reading =>
    let within := name :: within
    let site : Site := ⟨.replacement, within, reading.openNames.length⟩
    let (tokens, ending) := tokensFrom ⟨.replacement, .complete⟩ none false 0 position text
    match Reading.tokens dtd (replaceInContent dtd depth within) site (some position) reading
        tokens with
    | .error fault => .error fault
    | .ok reading =>
      match ending with
      | .faulty fault _ => .error (fault, position)
      | _ =>
        if reading.openNames.length = site.openBefore then .ok reading
        else .error (.unbalancedEntity, position)

/-- What the tokens of a source mean, after what the account says has been read before them. -/
def readTokens (dtd : Dtd) (scheme : Scheme) (account : Account) (tokens : List Placed) :
    Except PlacedFault Reading :=
  Reading.tokens dtd (replaceInContent dtd (dtd.entities.length + 1) []) ⟨scheme, [], 0⟩ none
    { account } tokens

end MemberDocs.Xml
