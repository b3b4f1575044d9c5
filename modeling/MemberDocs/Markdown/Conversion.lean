import MemberDocs.Markdown.Render
import MemberDocs.Xml.Document

/-! # Conversion

From an XML document to finished Markdown, under the standard rules. A tag without a rule is only
reported once the whole document has been read.
-/

namespace MemberDocs.Markdown

/-- Why a document cannot be converted. -/
inductive ConversionError where
  | document (error : Xml.ParseError)
  | rendering (error : RenderError)
deriving DecidableEq, Repr

def ConversionError.message : ConversionError → String
  | document error => error.message
  | rendering error => error.message

/-- The Markdown of a document that has been read. -/
def convertElement (document : Except Xml.ParseError Element) : Except ConversionError String :=
  match document with
  | .error error => .error (.document error)
  | .ok element => (renderMarkdown standardRules none element.toNode).mapError .rendering

/-- The Markdown of a document in bytes. -/
def convertBytes (bytes : List UInt8) : Except ConversionError String :=
  convertElement (Xml.parseBytes bytes)

/-- The Markdown of a document in a text. -/
def convertText (source : String) : Except ConversionError String :=
  convertElement (Xml.parseText source)

end MemberDocs.Markdown
