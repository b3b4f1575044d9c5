import MemberDocs.Yaml.Tag
import MemberDocs.Yaml.Token

/-! # From tokens to a graph

The values of a document as a graph: an alias is one more way to the value that has its anchor, so a
value can be reached twice, and can hold itself. `Graph.ofTokens` reads the one document of a token
list; every value gets the next free number when it starts, so that an alias inside of it can refer
to it.
-/

namespace MemberDocs.Yaml

/-- What a value holds. -/
inductive Content where
  | scalar (text : String)
  | sequence (items : List Nat)
  | mapping (pairs : List (Nat × Nat))
deriving DecidableEq, Repr, Inhabited

/-- A value of a graph. -/
structure Vertex where
  tag : Tag
  content : Content
deriving DecidableEq, Repr, Inhabited

/-- The values of a document, by their numbers. -/
structure Graph where
  vertices : Array Vertex
  root : Nat
deriving Repr

/-- The tag that is written before a value. -/
inductive WrittenTag where
  | none
  /-- An exclamation mark alone: the tag of the content, as if it were plain. -/
  | nonSpecific
  | specific (tag : Tag)
deriving DecidableEq, Repr

/-- A graph in the making, with the tokens that are left. -/
structure Draft where
  tokens : List Token
  /-- The handles of the tags with what they stand for. -/
  handles : List (String × String)
  vertices : Array Vertex
  anchors : List (String × Nat)

/-- The fault at a token that has no place here. -/
def faultAt : List Token → Fault
  | .fault fault :: _ => fault
  | _ => .refused .badGrammar

/-- The handles that need no directive. -/
def standardHandles : List (String × String) :=
  [("!", "!"), ("!!", standardLeading)]

/-- The tag with a handle and a suffix. -/
def WrittenTag.ofParts (handles : List (String × String)) (handle : Option String)
    (suffix : String) : Except Fault WrittenTag :=
  let ofName (name : String) : WrittenTag :=
    if name = "!" then nonSpecific else specific (.ofName name)
  match handle with
  | .none => .ok (ofName suffix)
  | .some handle =>
    match handles.lookup handle with
    | some leading => .ok (ofName (leading ++ suffix))
    | Option.none => .error (.refused .undefinedHandle)

namespace Draft

def advance (draft : Draft) (tokens : List Token) : Draft := { draft with tokens }

/-- Adds a value; its number is the count of values so far. -/
def add (draft : Draft) (tag : Tag) (content : Content) : Draft :=
  { draft with vertices := draft.vertices.push ⟨tag, content⟩ }

def addEmpty (draft : Draft) : Nat × Draft :=
  (draft.vertices.size, draft.add .null (.scalar ""))

/-- Gives the next value the name of an anchor, which no other value may have. -/
def bind (draft : Draft) (anchor : Option String) : Except Fault Draft :=
  match anchor with
  | none => .ok draft
  | some name =>
    if (draft.anchors.lookup name).isSome then .error (.refused .repeatedAnchor)
    else .ok { draft with anchors := (name, draft.vertices.size) :: draft.anchors }

/-- Sets what a collection holds, once it has been read. -/
def fill (draft : Draft) (number : Nat) (content : Content) : Draft :=
  { draft with
    vertices := draft.vertices.modify number fun vertex => { vertex with content } }

/-- Reads the anchor and the tag before a value, in either order. -/
def properties (draft : Draft) : Except Fault (Option String × WrittenTag × Draft) :=
  let tagged (handle : Option String) (suffix : String) (anchor : Option String)
      (rest : List Token) : Except Fault (Option String × WrittenTag × Draft) := do
    let tag ← WrittenTag.ofParts draft.handles handle suffix
    .ok (anchor, tag, draft.advance rest)
  match draft.tokens with
  | .anchor _ :: .fault fault :: _ => .error fault
  | .anchor name :: .tag handle suffix :: rest => tagged handle suffix (some name) rest
  | .anchor name :: rest => .ok (some name, .none, draft.advance rest)
  | .tag _ _ :: .fault fault :: _ => .error fault
  | .tag handle suffix :: .anchor name :: rest => tagged handle suffix (some name) rest
  | .tag handle suffix :: rest => tagged handle suffix none rest
  | _ => .ok (none, .none, draft)

end Draft

/-- The tag of a scalar: the one that is written, or else a string for a quoted text and what a plain
text looks like. -/
def scalarTag (tag : WrittenTag) (text : String) (plain : Bool) : Tag :=
  match tag with
  | .specific tag => tag
  | .nonSpecific => .ofPlain text
  | .none => if plain then .ofPlain text else .str

/-- The tag of a collection: the one that is written, or else that of its kind. -/
def collectionTag (tag : WrittenTag) (kind : Tag) : Tag :=
  match tag with
  | .specific tag => tag
  | .none | .nonSpecific => kind

def Draft.addScalar (draft : Draft) (anchor : Option String) (tag : Tag) (text : String) :
    Except Fault (Nat × Draft) := do
  let bound ← draft.bind anchor
  .ok (draft.vertices.size, bound.add tag (.scalar text))

/-- Where a value stands: inside of a flow collection, in a block, or as a part of a mapping in a
block, where the items of a sequence need no indentation. -/
inductive Site where
  | flow
  | block
  | pair
deriving DecidableEq, Repr

/-- A token before which a value may be left out. -/
abbrev Closing := Token → Bool

/-- The tokens that end the part of a mapping in a block. -/
def endsBlockPart : Closing
  | .key | .value | .blockEnd => true
  | _ => false

/-- The tokens that end the item of a sequence in a block. -/
def endsBlockItem : Closing
  | .blockEntry | .blockEnd => true
  | _ => false

/-- The tokens that end the item of a sequence without indentation. -/
def endsFlatItem : Closing
  | .blockEntry | .key | .value | .blockEnd => true
  | _ => false

/-- The tokens that end the value of a pair in a flow sequence. -/
def endsFlowItem : Closing
  | .flowEntry | .flowSequenceEnd => true
  | _ => false

/-- The tokens that end the value of a pair in a flow mapping. -/
def endsFlowPart : Closing
  | .flowEntry | .flowMappingEnd => true
  | _ => false

/-- The key of a pair in a flow collection also ends before its value. -/
def orValue (closing : Closing) : Closing
  | .value => true
  | token => closing token

mutual

def readNode : Nat → Site → Draft → Except Fault (Nat × Draft)
  | 0, _, draft => .error (faultAt draft.tokens)
  | fuel + 1, site, draft =>
    match draft.tokens with
    | .alias name :: rest =>
      match draft.anchors.lookup name with
      | some number => .ok (number, draft.advance rest)
      | none => .error (.refused .undefinedAlias)
    | _ => do
      let (anchor, tag, draft) ← draft.properties
      match draft.tokens, site with
      | .scalar text plain :: rest, _ =>
        (draft.advance rest).addScalar anchor (scalarTag tag text plain) text
      | .flowSequenceStart :: rest, _ =>
        let bound ← (draft.advance rest).bind anchor
        let number := bound.vertices.size
        let (items, after) ←
          flowItems fuel true (bound.add (collectionTag tag .seq) (.sequence []))
        .ok (number, after.fill number (.sequence items))
      | .flowMappingStart :: rest, _ =>
        let bound ← (draft.advance rest).bind anchor
        let number := bound.vertices.size
        let (pairs, after) ←
          flowPairs fuel true (bound.add (collectionTag tag .map) (.mapping []))
        .ok (number, after.fill number (.mapping pairs))
      | .blockEntry :: _, .pair =>
        let bound ← draft.bind anchor
        let number := bound.vertices.size
        let (items, after) ← flatItems fuel (bound.add (collectionTag tag .seq) (.sequence []))
        .ok (number, after.fill number (.sequence items))
      | .blockSequenceStart :: rest, .block | .blockSequenceStart :: rest, .pair =>
        let bound ← (draft.advance rest).bind anchor
        let number := bound.vertices.size
        let (items, after) ← blockItems fuel (bound.add (collectionTag tag .seq) (.sequence []))
        .ok (number, after.fill number (.sequence items))
      | .blockMappingStart :: rest, .block | .blockMappingStart :: rest, .pair =>
        let bound ← (draft.advance rest).bind anchor
        let number := bound.vertices.size
        let (pairs, after) ← blockPairs fuel (bound.add (collectionTag tag .map) (.mapping []))
        .ok (number, after.fill number (.mapping pairs))
      | .fault fault :: _, _ => .error fault
      | tokens, _ =>
        if anchor.isNone && tag = .none then .error (faultAt tokens)
        else draft.addScalar anchor (scalarTag tag "" (tag = .none)) ""

/-- Reads a value that may be left out before some tokens. -/
def readPart : Nat → Site → Closing → Draft → Except Fault (Nat × Draft)
  | 0, _, _, draft => .error (faultAt draft.tokens)
  | fuel + 1, site, closing, draft =>
    match draft.tokens with
    | token :: _ => if closing token then .ok draft.addEmpty else readNode fuel site draft
    | [] => readNode fuel site draft

/-- Reads the value of a pair, which may be left out with its sign. -/
def readValue : Nat → Site → Closing → Draft → Except Fault (Nat × Draft)
  | 0, _, _, draft => .error (faultAt draft.tokens)
  | fuel + 1, site, closing, draft =>
    match draft.tokens with
    | .value :: rest => readPart fuel site closing (draft.advance rest)
    | .fault fault :: _ => .error fault
    | _ => .ok draft.addEmpty

/-- Reads the items of a sequence in a block, up to the end of the block. -/
def blockItems : Nat → Draft → Except Fault (List Nat × Draft)
  | 0, draft => .error (faultAt draft.tokens)
  | fuel + 1, draft =>
    match draft.tokens with
    | .blockEntry :: rest => do
      let (item, after) ← readPart fuel .block endsBlockItem (draft.advance rest)
      let (items, last) ← blockItems fuel after
      .ok (item :: items, last)
    | .blockEnd :: rest => .ok ([], draft.advance rest)
    | tokens => .error (faultAt tokens)

/-- Reads the items of a sequence that is not indented, as long as there are any. -/
def flatItems : Nat → Draft → Except Fault (List Nat × Draft)
  | 0, draft => .error (faultAt draft.tokens)
  | fuel + 1, draft =>
    match draft.tokens with
    | .blockEntry :: rest => do
      let (item, after) ← readPart fuel .block endsFlatItem (draft.advance rest)
      let (items, last) ← flatItems fuel after
      .ok (item :: items, last)
    | .fault fault :: _ => .error fault
    | _ => .ok ([], draft)

/-- Reads the pairs of a mapping in a block, up to the end of the block. -/
def blockPairs : Nat → Draft → Except Fault (List (Nat × Nat) × Draft)
  | 0, draft => .error (faultAt draft.tokens)
  | fuel + 1, draft =>
    match draft.tokens with
    | .key :: rest => do
      let (key, after) ← readPart fuel .pair endsBlockPart (draft.advance rest)
      let (value, after) ← readValue fuel .pair endsBlockPart after
      let (pairs, last) ← blockPairs fuel after
      .ok ((key, value) :: pairs, last)
    | .blockEnd :: rest => .ok ([], draft.advance rest)
    | tokens => .error (faultAt tokens)

/-- Reads the items of a flow sequence, up to its end. An item may be a pair, which makes a mapping
of its own. A comma stands before every item but the first. -/
def flowItems : Nat → Bool → Draft → Except Fault (List Nat × Draft)
  | 0, _, draft => .error (faultAt draft.tokens)
  | fuel + 1, isFirst, draft =>
    match draft.tokens, isFirst with
    | .flowSequenceEnd :: rest, _ => .ok ([], draft.advance rest)
    | .flowEntry :: rest, false => flowItem fuel (draft.advance rest)
    | _, true => flowItem fuel draft
    | tokens, false => .error (faultAt tokens)

/-- Reads an item of a flow sequence and the items after it; after a comma, the sequence may end
too. -/
def flowItem : Nat → Draft → Except Fault (List Nat × Draft)
  | 0, draft => .error (faultAt draft.tokens)
  | fuel + 1, draft =>
    match draft.tokens with
    | .flowSequenceEnd :: rest => .ok ([], draft.advance rest)
    | .key :: rest => do
      let number := draft.vertices.size
      let (key, after) ← readPart fuel .flow (orValue endsFlowItem)
        ((draft.advance rest).add .map (.mapping []))
      let (value, after) ← readValue fuel .flow endsFlowItem after
      let (items, last) ← flowItems fuel false (after.fill number (.mapping [(key, value)]))
      .ok (number :: items, last)
    | _ => do
      let (item, after) ← readNode fuel .flow draft
      let (items, last) ← flowItems fuel false after
      .ok (item :: items, last)

/-- Reads the pairs of a flow mapping, up to its end. -/
def flowPairs : Nat → Bool → Draft → Except Fault (List (Nat × Nat) × Draft)
  | 0, _, draft => .error (faultAt draft.tokens)
  | fuel + 1, isFirst, draft =>
    match draft.tokens, isFirst with
    | .flowMappingEnd :: rest, _ => .ok ([], draft.advance rest)
    | .flowEntry :: rest, false => flowPair fuel (draft.advance rest)
    | _, true => flowPair fuel draft
    | tokens, false => .error (faultAt tokens)

/-- Reads a pair of a flow mapping and the pairs after it. A key without a sign has no value. -/
def flowPair : Nat → Draft → Except Fault (List (Nat × Nat) × Draft)
  | 0, draft => .error (faultAt draft.tokens)
  | fuel + 1, draft =>
    match draft.tokens with
    | .flowMappingEnd :: rest => .ok ([], draft.advance rest)
    | .key :: rest => do
      let (key, after) ← readPart fuel .flow (orValue endsFlowPart) (draft.advance rest)
      let (value, after) ← readValue fuel .flow endsFlowPart after
      let (pairs, last) ← flowPairs fuel false after
      .ok ((key, value) :: pairs, last)
    | _ => do
      let (key, after) ← readNode fuel .flow draft
      let (value, after) := after.addEmpty
      let (pairs, last) ← flowPairs fuel false after
      .ok ((key, value) :: pairs, last)

end

/-- The directives that have been read before a document. -/
structure Directives where
  hasVersion : Bool
  handles : List (String × String)

/-- Reads the directives in front. A document has one version, of the first edition, and gives a
handle one meaning. -/
def readDirectives (known : Directives) : List Token →
    Except Fault (Directives × List Token)
  | .directive (.version major _) :: rest =>
    if known.hasVersion || major ≠ 1 then .error (.refused .badDirective)
    else readDirectives { known with hasVersion := true } rest
  | .directive (.handle handle leading) :: rest =>
    if (known.handles.lookup handle).isSome then .error (.refused .badDirective)
    else readDirectives { known with handles := (handle, leading) :: known.handles } rest
  | .directive (.reserved _) :: rest => readDirectives known rest
  | tokens => .ok (known, tokens)

/-- The document is over, and no other follows. -/
def readStreamEnd (tokens : List Token) : Except Fault Unit :=
  match tokens.dropWhile (· = .documentEnd) with
  | .streamEnd :: _ => .ok ()
  | tokens => do
    let (_, rest) ← readDirectives ⟨false, []⟩ tokens
    match rest with
    | .documentStart :: _ => .error (.refused .severalDocuments)
    | _ => .error (faultAt rest)

/-- More steps than any document of some tokens needs. -/
def fuelFor (tokens : List Token) : Nat :=
  4 * tokens.length + 8

/-- Reads the value of a document and the end of the text. -/
def readDocument (handles : List (String × String)) (tokens : List Token) :
    Except Fault Graph := do
  let (root, draft) ← readNode (fuelFor tokens) .block ⟨tokens, handles, #[], []⟩
  readStreamEnd draft.tokens
  .ok ⟨draft.vertices, root⟩

/-- Reads the document after its start mark; it may be empty. -/
def readMarkedDocument (handles : List (String × String)) (tokens : List Token) :
    Except Fault Graph :=
  match tokens with
  | .directive _ :: _ | .documentStart :: _ | .documentEnd :: _ | .streamEnd :: _ => do
    readStreamEnd tokens
    .ok ⟨#[⟨.null, .scalar ""⟩], 0⟩
  | _ => readDocument handles tokens

/-- The graph of the one document of a text; nothing if the text has none. -/
def Graph.ofTokens (tokens : List Token) : Except Fault (Option Graph) :=
  match tokens with
  | .streamEnd :: _ => .ok none
  | .directive _ :: _ | .documentStart :: _ => do
    let (directives, rest) ← readDirectives ⟨false, []⟩ tokens
    match rest with
    | .documentStart :: rest =>
      let graph ← readMarkedDocument (directives.handles ++ standardHandles) rest
      .ok (some graph)
    | _ => .error (faultAt rest)
  | _ => do
    let graph ← readDocument standardHandles tokens
    .ok (some graph)

end MemberDocs.Yaml
