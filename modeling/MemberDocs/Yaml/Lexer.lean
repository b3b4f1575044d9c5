import MemberDocs.Yaml.BlockText
import MemberDocs.Yaml.Property

/-! # From text to tokens

The lexer reads one token after the other and adds the tokens that are not written: those that open
and close blocks, which the indentation makes, and the one before a key, which is only known when the
colon after the key is found. So tokens wait in a queue as long as the first of them may still turn
out to be a key. `tokensOf` gives all tokens of a text; they end with the end of the text or with a
fault.
-/

namespace MemberDocs.Yaml

/-- A token that may turn out to start a key. -/
structure PossibleKey where
  /-- The number of the token, counted from the start of the text. -/
  number : Nat
  /-- The token can be nothing but a key, because it starts where the keys of its block start. -/
  required : Bool
  flowLevel : Nat
  index : Nat
  line : Nat
  column : Nat
deriving Repr

/-- How many characters a key may be long at most. -/
def keyLimit : Nat := 1024

/-- The state between two tokens. -/
structure Lexer where
  cursor : Cursor
  /-- How many flow collections are open. -/
  flowLevel : Nat
  /-- The columns of the open blocks, the innermost first. -/
  columns : List Nat
  /-- A key may start at the next token. -/
  allowsKey : Bool
  keys : List PossibleKey
  /-- How many tokens have left the queue. -/
  taken : Nat
  queue : List Token

namespace Lexer

/-- The state at the front of a text. -/
def start (source : List Char) : Lexer :=
  ⟨Cursor.start source, 0, [], true, [], 0, []⟩

/-- The column of the innermost block, -1 outside of all blocks. -/
def indent (lexer : Lexer) : Int :=
  match lexer.columns with
  | [] => -1
  | column :: _ => column

def inFlow (lexer : Lexer) : Bool :=
  0 < lexer.flowLevel

/-- Adds a token at the end of the queue. -/
def push (lexer : Lexer) (token : Token) : Lexer :=
  { lexer with queue := lexer.queue ++ [token] }

/-- Adds a token that has been read up to a position. -/
def pushAt (lexer : Lexer) (token : Token) (cursor : Cursor) : Lexer :=
  { lexer.push token with cursor }

/-- Goes past spaces, comments and line breaks. Outside of flow collections a key may start after a
break. -/
def skipGaps : Nat → Lexer → Lexer
  | 0, lexer => lexer
  | fuel + 1, lexer =>
    let cursor := lexer.cursor.skipSpaces.skipComment
    match cursor.lineBreak? with
    | some (_, after) =>
      skipGaps fuel { lexer with cursor := after, allowsKey := lexer.allowsKey || !lexer.inFlow }
    | none => { lexer with cursor }

/-- Goes to the next token; a byte order mark at the front of the text is passed over. -/
def toNextToken (lexer : Lexer) : Lexer :=
  let cursor :=
    if lexer.cursor.index = 0 && startsWith (· = '\uFEFF') lexer.cursor.rest then
      lexer.cursor.next
    else lexer.cursor
  skipGaps (cursor.rest.length + 1) { lexer with cursor }

/-- A key has to be on one line and cannot be too long. -/
def isStale (lexer : Lexer) (key : PossibleKey) : Bool :=
  key.line ≠ lexer.cursor.line || keyLimit < lexer.cursor.index - key.index

/-- Forgets the possible keys that can be keys no more. -/
def dropStaleKeys (lexer : Lexer) : Except Fault Lexer :=
  if lexer.keys.any fun key => lexer.isStale key && key.required then
    .error (.refused .keyWithoutValue)
  else .ok { lexer with keys := lexer.keys.filter (!lexer.isStale ·) }

/-- Forgets the possible key of the present flow level. -/
def dropKey (lexer : Lexer) : Except Fault Lexer :=
  if lexer.keys.any fun key => key.flowLevel = lexer.flowLevel && key.required then
    .error (.refused .keyWithoutValue)
  else .ok { lexer with keys := lexer.keys.filter (·.flowLevel ≠ lexer.flowLevel) }

/-- Notes that the next token may start a key. -/
def saveKey (lexer : Lexer) : Except Fault Lexer :=
  if lexer.allowsKey then do
    let cursor := lexer.cursor
    let key : PossibleKey :=
      { number := lexer.taken + lexer.queue.length
        required := !lexer.inFlow && lexer.indent = cursor.column
        flowLevel := lexer.flowLevel
        index := cursor.index, line := cursor.line, column := cursor.column }
    let lexer ← lexer.dropKey
    .ok { lexer with keys := key :: lexer.keys }
  else .ok lexer

/-- Closes the blocks that are deeper than a column. -/
def unwind (column : Int) (lexer : Lexer) : Lexer :=
  if lexer.inFlow then lexer
  else
    let isOpen (block : Nat) : Bool := (block : Int) ≤ column
    let closed := lexer.columns.takeWhile (!isOpen ·)
    { lexer with
      columns := lexer.columns.dropWhile (!isOpen ·)
      queue := lexer.queue ++ closed.map fun _ => Token.blockEnd }

/-- Opens a block at the present column, with the token `opening`, if none is open there. -/
def openBlock (opening : Token) (lexer : Lexer) : Lexer :=
  let column := lexer.cursor.column
  if lexer.indent < (column : Int) then
    { lexer.push opening with columns := column :: lexer.columns }
  else lexer

/-- The end of the text closes all blocks. -/
def endStream (lexer : Lexer) : Except Fault Lexer := do
  let lexer ← (lexer.unwind (-1)).dropKey
  .ok { lexer.push .streamEnd with allowsKey := false, keys := [] }

def pushDirective (lexer : Lexer) : Except Fault Lexer := do
  let lexer ← (lexer.unwind (-1)).dropKey
  let (token, after) ← readDirective lexer.cursor
  .ok ({ lexer with allowsKey := false }.pushAt token after)

def pushDocumentMark (token : Token) (lexer : Lexer) : Except Fault Lexer := do
  let lexer ← (lexer.unwind (-1)).dropKey
  .ok ({ lexer with allowsKey := false }.pushAt token (lexer.cursor.skip 3))

/-- Reads the sign that opens a flow collection; the collection may be a key as a whole. -/
def openFlow (token : Token) (lexer : Lexer) : Except Fault Lexer := do
  let lexer ← lexer.saveKey
  .ok ({ lexer with flowLevel := lexer.flowLevel + 1, allowsKey := true }.pushAt token
    lexer.cursor.next)

/-- Reads the sign that closes a flow collection. -/
def closeFlow (token : Token) (lexer : Lexer) : Except Fault Lexer := do
  let lexer ← lexer.dropKey
  .ok ({ lexer with flowLevel := lexer.flowLevel - 1, allowsKey := false }.pushAt token
    lexer.cursor.next)

/-- Reads the comma between two items of a flow collection. -/
def pushFlowEntry (lexer : Lexer) : Except Fault Lexer := do
  let lexer ← lexer.dropKey
  .ok ({ lexer with allowsKey := true }.pushAt .flowEntry lexer.cursor.next)

/-- The refusal of an indicator where no item can start. -/
def misplaced : Fault := .refused .misplacedIndicator

/-- Reads the hyphen of an item, the first of which opens a sequence. -/
def pushBlockEntry (lexer : Lexer) : Except Fault Lexer := do
  if !lexer.inFlow && !lexer.allowsKey then .error misplaced
  let lexer := if lexer.inFlow then lexer else lexer.openBlock .blockSequenceStart
  let lexer ← lexer.dropKey
  .ok ({ lexer with allowsKey := true }.pushAt .blockEntry lexer.cursor.next)

/-- Reads the question mark of a key, the first of which opens a mapping. -/
def pushKey (lexer : Lexer) : Except Fault Lexer := do
  if !lexer.inFlow && !lexer.allowsKey then .error misplaced
  let lexer := if lexer.inFlow then lexer else lexer.openBlock .blockMappingStart
  let lexer ← lexer.dropKey
  .ok ({ lexer with allowsKey := !lexer.inFlow }.pushAt .key lexer.cursor.next)

/-- Puts tokens into the queue before the one with a number. -/
def insertBefore (number : Nat) (tokens : List Token) (lexer : Lexer) : Lexer :=
  let place := number - lexer.taken
  { lexer with queue := lexer.queue.take place ++ tokens ++ lexer.queue.drop place }

/-- Marks a token that has waited as a key; the first key of a block opens a mapping. -/
def settleKey (key : PossibleKey) (lexer : Lexer) : Lexer :=
  let lexer := { lexer with keys := lexer.keys.filter (·.flowLevel ≠ lexer.flowLevel) }
  if !lexer.inFlow && lexer.indent < (key.column : Int) then
    { lexer.insertBefore key.number [.blockMappingStart, .key] with
      columns := key.column :: lexer.columns }
  else lexer.insertBefore key.number [.key]

/-- Reads the colon before a value: it belongs to the token that has waited as a key, or to a key
that is not written. -/
def pushValue (lexer : Lexer) : Except Fault Lexer := do
  match lexer.keys.find? (·.flowLevel = lexer.flowLevel) with
  | some key =>
    .ok ({ lexer.settleKey key with allowsKey := false }.pushAt .value lexer.cursor.next)
  | none =>
    if !lexer.inFlow && !lexer.allowsKey then .error misplaced
    let lexer := if lexer.inFlow then lexer else lexer.openBlock .blockMappingStart
    let lexer ← lexer.dropKey
    .ok ({ lexer with allowsKey := !lexer.inFlow }.pushAt .value lexer.cursor.next)

def pushName (token : String → Token) (lexer : Lexer) : Except Fault Lexer := do
  let lexer ← lexer.saveKey
  let (name, after) ← readAnchorName lexer.cursor.next
  .ok ({ lexer with allowsKey := false }.pushAt (token name) after)

def pushTag (lexer : Lexer) : Except Fault Lexer := do
  let lexer ← lexer.saveKey
  let (token, after) ← readTag lexer.cursor
  .ok ({ lexer with allowsKey := false }.pushAt token after)

/-- Reads a block scalar, which cannot be a key. -/
def pushBlock (folded : Bool) (lexer : Lexer) : Except Fault Lexer := do
  let lexer ← lexer.dropKey
  let (text, after) ← readBlock folded lexer.indent lexer.cursor
  .ok ({ lexer with allowsKey := true }.pushAt (.scalar (String.ofList text) false) after)

def pushQuoted (quote : Char) (lexer : Lexer) : Except Fault Lexer := do
  let lexer ← lexer.saveKey
  let (text, after) ← readQuoted quote lexer.cursor
  .ok ({ lexer with allowsKey := false }.pushAt (.scalar (String.ofList text) false) after)

/-- Reads a plain scalar; a key may start after it if it ends with a line. -/
def pushPlain (lexer : Lexer) : Except Fault Lexer := do
  let lexer ← lexer.saveKey
  let scalar := readPlain lexer.inFlow (lexer.indent + 1) lexer.cursor
  .ok ({ lexer with allowsKey := scalar.atLineStart }.pushAt
    (.scalar (String.ofList scalar.text) true) scalar.cursor)

/-- A character that no plain scalar starts with, unless it is one of the three signs that may be
followed by text. -/
def isIndicator (c : Char) : Bool :=
  "-?:,[]\x7b\x7d#&*!|>'\"%@".toList.contains c || c.toNat = 0x60

/-- A plain scalar is in front. -/
def startsPlain (lexer : Lexer) (c : Char) (rest : List Char) : Bool :=
  !(isGap c || isIndicator c) ||
    (!atEndOr isGap rest && (c = '-' || (!lexer.inFlow && (c = '?' || c = ':'))))

/-- Reads the token in front, which starts with the character `c`. -/
def pushToken (lexer : Lexer) (c : Char) (rest : List Char) : Except Fault Lexer :=
  let isAtLineStart := lexer.cursor.column = 0
  let endsIndicator := lexer.inFlow || atEndOr isGap rest
  if c = '%' && isAtLineStart then lexer.pushDirective
  else if isAtLineStart && isDocumentMark '-' (c :: rest) then
    lexer.pushDocumentMark .documentStart
  else if isAtLineStart && isDocumentMark '.' (c :: rest) then lexer.pushDocumentMark .documentEnd
  else if c = '[' then lexer.openFlow .flowSequenceStart
  else if c = '\x7b' then lexer.openFlow .flowMappingStart
  else if c = ']' then lexer.closeFlow .flowSequenceEnd
  else if c = '\x7d' then lexer.closeFlow .flowMappingEnd
  else if c = ',' then lexer.pushFlowEntry
  else if c = '-' && atEndOr isGap rest then lexer.pushBlockEntry
  else if c = '?' && endsIndicator then lexer.pushKey
  else if c = ':' && endsIndicator then lexer.pushValue
  else if c = '*' then lexer.pushName .alias
  else if c = '&' then lexer.pushName .anchor
  else if c = '!' then lexer.pushTag
  else if c = '|' && !lexer.inFlow then lexer.pushBlock false
  else if c = '>' && !lexer.inFlow then lexer.pushBlock true
  else if c = '\'' || c = '"' then lexer.pushQuoted c
  else if lexer.startsPlain c rest then lexer.pushPlain
  else .error badToken

def fetch (lexer : Lexer) : Except Fault Lexer := do
  let lexer ← lexer.toNextToken.dropStaleKeys
  let lexer := lexer.unwind lexer.cursor.column
  match lexer.cursor.rest with
  | [] => lexer.endStream
  | c :: rest => lexer.pushToken c rest

/-- The first token of the queue may still turn out to be a key. -/
def isWaiting (lexer : Lexer) : Bool :=
  lexer.keys.any (·.number = lexer.taken)

/-- The tokens from a state on. -/
def tokensFrom : Nat → Lexer → List Token
  | 0, _ => []
  | fuel + 1, lexer =>
    match lexer.queue with
    | [] =>
      match lexer.fetch with
      | .error fault => [.fault fault]
      | .ok next => tokensFrom fuel next
    | token :: queue =>
      if token = .streamEnd then [.streamEnd]
      else
        match lexer.dropStaleKeys with
        | .error fault => [.fault fault]
        | .ok lexer =>
          if lexer.isWaiting then
            match lexer.fetch with
            | .error fault => [.fault fault]
            | .ok next => tokensFrom fuel next
          else token :: tokensFrom fuel { lexer with queue, taken := lexer.taken + 1 }

end Lexer

/-- The tokens of a text. A text with a character that is not allowed anywhere has no tokens. -/
def tokensOf (source : List Char) : List Token :=
  if source.all isAllowed then
    Lexer.tokensFrom (8 * (source.length + 2)) (Lexer.start source)
  else [.fault (.refused .forbiddenCharacter)]

end MemberDocs.Yaml
