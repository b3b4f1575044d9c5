import MemberDocs.Xml.CodePageTable
import MemberDocs.Xml.Fault
import MemberDocs.Xml.Scheme

/-! # Finding a code page by its name

A name is looked up with its letters lowered and its punctuation, other than dots, read as
underscores.
-/

namespace MemberDocs.Xml

/-- The form in which names of encodings are compared: small letters, with one underscore for each
run of punctuation between letters, digits and dots. `pending` says that such a run has just been
read. -/
def comparedName (pending : Bool) : List Char → List Char
  | [] => []
  | c :: rest =>
    if isAsciiLetter c || isAsciiDigit c || c = '.' then
      (if pending then ['_', c.toLower] else [c.toLower]) ++ comparedName false rest
    else comparedName true rest

/-- The name of an encoding in the form in which names are compared. -/
def encodingKey (name : String) : String :=
  let key := comparedName false name.toList
  String.ofList (key.dropWhile (· = '_'))

/-- The characters of the 256 bytes; nothing where a byte has none. -/
def CodePage.table (page : CodePage) : List (Option Char) :=
  let given := page.characters.toList.map fun c => if c = '\ufffd' then none else some c
  if given.length = 256 then given
  else (List.range 128).map (some ∘ Char.ofNat) ++ given

/-- What a name that is none of the built-in encodings stands for. -/
inductive CodePageResult where
  /-- A page whose markup is that of ASCII. -/
  | page (table : List (Option Char))
  /-- A page that writes markup otherwise. -/
  | foreignMarkup
  /-- No page of one byte for each character. -/
  | failure (error : EncodingError)

/-- Looks a page up. -/
def findCodePage (name : String) : CodePageResult :=
  let key := encodingKey name
  let undotted := String.ofList (key.toList.map fun c => if c = '.' then '_' else c)
  let page? := codePages.find? fun page =>
    page.aliases.contains key || page.names.contains key || page.aliases.contains undotted
  match page? with
  | some page => .page page.table
  | none =>
    if foreignMarkupNames.contains key then .foreignMarkup
    else if multiByteNames.contains key then .failure .multiByte
    else if nonTextNames.contains key then .failure (.notText name)
    else if key = "idna" then
      .failure (.unusable
        "decoding with 'idna' codec failed (UnicodeError: Unsupported error handling replace)")
    else if key = "undefined" then
      .failure (.unusable
        "decoding with 'undefined' codec failed (UnicodeError: undefined encoding)")
    else if key = "punycode" then
      .failure (.refused
        "'ascii' codec can't decode byte 0x80 in position 82: ordinal not in range(128)")
    else .failure (.unknown name)

end MemberDocs.Xml
