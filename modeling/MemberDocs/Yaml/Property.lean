import MemberDocs.Text.Utf8
import MemberDocs.Yaml.Quotation
import MemberDocs.Yaml.Token

/-! # Anchors, tags and directives

What can stand before a value besides its text: the name it is given (`readAnchorName`), the tag that
says what it is (`readTag`), and the directives before a document, which give a version or a short
handle for the tags.
-/

namespace MemberDocs.Yaml

/-- The end of the text, a space or a line break. -/
def atSpaceOrBreak (cs : List Char) : Bool :=
  atEndOr (fun c => c = ' ' || isBreak c) cs

/-- A sign that may follow the name of an anchor directly. -/
def mayFollowName (c : Char) : Bool :=
  isGap c || c = '?' || c = ':' || c = ',' || c = ']' || c = '\x7d' || c = '%' || c = '@' ||
    c.toNat = 0x60

/-- Reads the name of an anchor or an alias, after its sign. -/
def readAnchorName (cursor : Cursor) : Except Fault (String × Cursor) :=
  let name := cursor.run isWordChar
  let after := cursor.skip name.length
  if name.isEmpty || !atEndOr mayFollowName after.rest then .error badToken
  else .ok (String.ofList name, after)

/-- A character that may stand in a tag as it is, or starts an escape. -/
def isUriChar (c : Char) : Bool :=
  c.isAlphanum || "-;/?:@&=+$,_.!~*'()[]%".toList.contains c

/-- The bytes of the escapes in front, each a percent sign with two digits; nothing if a percent
sign has no digits. -/
def escapedBytes? : List Char → Option (List UInt8)
  | '%' :: a :: b :: rest =>
    if isHexDigit a && isHexDigit b then
      (escapedBytes? rest).map (UInt8.ofNat (digitOf a * 16 + digitOf b) :: ·)
    else none
  | '%' :: _ => none
  | _ => some []

/-- Reads the escapes in front, whose bytes are a text together. -/
def readUriEscapes (cursor : Cursor) : Except Fault (List Char × Cursor) :=
  match escapedBytes? cursor.rest with
  | none => .error badToken
  | some bytes =>
    match Text.decodeUtf8 bytes with
    | .ok text => .ok (text, cursor.skip (3 * bytes.length))
    | .error _ => .error badToken

/-- The characters of a tag, up to the first that can be no part of one. -/
def uriTail : Nat → Cursor → Except Fault (List Char × Cursor)
  | 0, cursor => .ok ([], cursor)
  | fuel + 1, cursor =>
    match cursor.rest with
    | [] => .ok ([], cursor)
    | c :: _ =>
      if c = '%' then do
        let (part, after) ← readUriEscapes cursor
        let (text, last) ← uriTail fuel after
        .ok (part ++ text, last)
      else if isUriChar c then do
        let (text, last) ← uriTail fuel cursor.next
        .ok (c :: text, last)
      else .ok ([], cursor)

/-- Reads the characters of a tag; there has to be one at least. -/
def readUri (cursor : Cursor) : Except Fault (String × Cursor) :=
  if !startsWith isUriChar cursor.rest then .error badToken
  else do
    let (text, last) ← uriTail cursor.rest.length cursor
    .ok (String.ofList text, last)

/-- Reads a handle: an exclamation mark, or a word between two of them. -/
def readHandle (cursor : Cursor) : Except Fault (String × Cursor) :=
  if !startsWith (· = '!') cursor.rest then .error badToken
  else
    let after := cursor.next
    if startsWith (· = ' ') after.rest then .ok ("!", after)
    else
      let word := after.run isWordChar
      let last := after.skip word.length
      if startsWith (· = '!') last.rest then
        .ok (String.ofList ('!' :: word ++ ['!']), last.next)
      else .error badToken

/-- Reads the tag in front: its handle, if it has one, and its suffix. -/
def readTag (cursor : Cursor) : Except Fault (Token × Cursor) := do
  let after := cursor.next
  let (tag, last) ←
    match after.rest with
    | '<' :: _ =>
      let (suffix, last) ← readUri after.next
      if startsWith (· = '>') last.rest then .ok (Token.tag none suffix, last.next)
      else .error badToken
    | rest =>
      if atEndOr isGap rest then .ok (Token.tag none "!", after)
      else
        let word := rest.takeWhile fun c => c ≠ ' ' && !isBreak c
        let (handle, start) ←
          if word.contains '!' then readHandle cursor else .ok ("!", after)
        let (suffix, last) ← readUri start
        .ok (Token.tag (some handle) suffix, last)
  if atSpaceOrBreak last.rest then .ok (tag, last) else .error badToken

def readVersionNumber (cursor : Cursor) : Except Fault (Nat × Cursor) :=
  let digits := cursor.run Char.isDigit
  if digits.isEmpty then .error badToken
  else if digitLimit < digits.length then .error (.scalar (.tooManyDigits digits.length))
  else .ok (digitsValue 10 digits, cursor.skip digits.length)

def readVersion (cursor : Cursor) : Except Fault (Directive × Cursor) := do
  let (major, dot) ← readVersionNumber cursor.skipSpaces
  if !startsWith (· = '.') dot.rest then .error badToken
  let (minor, last) ← readVersionNumber dot.next
  if !atSpaceOrBreak last.rest then .error badToken
  .ok (.version major minor, last)

/-- Reads the handle that a directive gives, and what it stands for. -/
def readHandleDirective (cursor : Cursor) : Except Fault (Directive × Cursor) := do
  let (handle, after) ← readHandle cursor.skipSpaces
  if !startsWith (· = ' ') after.rest then .error badToken
  let (leading, last) ← readUri after.skipSpaces
  if !atSpaceOrBreak last.rest then .error badToken
  .ok (.handle handle leading, last)

/-- Reads the directive in front, with the end of its line. -/
def readDirective (cursor : Cursor) : Except Fault (Token × Cursor) := do
  let start := cursor.next
  let name := start.run isWordChar
  let after := start.skip name.length
  if name.isEmpty || !atSpaceOrBreak after.rest then .error badToken
  let (directive, last) ←
    if name = ['Y', 'A', 'M', 'L'] then readVersion after
    else if name = ['T', 'A', 'G'] then readHandleDirective after
    else .ok (.reserved (String.ofList name), after.skipRun (!isBreak ·))
  match last.skipLineEnd? with
  | some next => .ok (.directive directive, next)
  | none => .error badToken

end MemberDocs.Yaml
