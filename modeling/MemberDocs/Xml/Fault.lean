import MemberDocs.Doc.Node

/-! # Faults of XML sources

What can be wrong with a source, apart from what its bytes mean: each fault has one wording
(`Fault.message`) and is found at one place. A document that cannot be read is either malformed, or
declares an encoding that its bytes cannot be read in (`ParseError`).
-/

namespace MemberDocs.Xml

/-- What is wrong at a place of a source. -/
inductive Fault where
  | noElement
  | invalidToken
  | unclosedToken
  | partialCharacter
  | mismatchedTag
  | duplicateAttribute
  | junkAfterDocument
  | parameterReference
  | undefinedEntity
  | recursiveEntity
  | unbalancedEntity
  | badCharacterNumber
  | binaryEntity
  | externalEntityInAttribute
  | misplacedDeclaration
  | unknownEncoding
  | wrongEncoding
  | unclosedCdata
  | malformedDeclaration
  | badPublicIdentifier
  | syntaxError
  | amplification
deriving DecidableEq, Repr

def Fault.message : Fault → String
  | noElement => "no element found"
  | invalidToken => "not well-formed (invalid token)"
  | unclosedToken => "unclosed token"
  | partialCharacter => "partial character"
  | mismatchedTag => "mismatched tag"
  | duplicateAttribute => "duplicate attribute"
  | junkAfterDocument => "junk after document element"
  | parameterReference => "illegal parameter entity reference"
  | undefinedEntity => "undefined entity"
  | recursiveEntity => "recursive entity reference"
  | unbalancedEntity => "asynchronous entity"
  | badCharacterNumber => "reference to invalid character number"
  | binaryEntity => "reference to binary entity"
  | externalEntityInAttribute => "reference to external entity in attribute"
  | misplacedDeclaration => "XML or text declaration not at start of entity"
  | unknownEncoding => "unknown encoding"
  | wrongEncoding => "encoding specified in XML declaration is incorrect"
  | unclosedCdata => "unclosed CDATA section"
  | malformedDeclaration => "XML declaration not well-formed"
  | badPublicIdentifier => "illegal character(s) in public id"
  | syntaxError => "syntax error"
  | amplification => "limit on input amplification factor (from DTD and entities) breached"

/-- A fault and its place. -/
abbrev PlacedFault := Fault × Position

/-- Why a declared encoding cannot be used. -/
inductive EncodingError where
  /-- No encoding has the name. -/
  | unknown (name : String)
  /-- The name is that of a transformation that does not give text. -/
  | notText (name : String)
  /-- Some characters take several bytes. -/
  | multiByte
  /-- The encoding cannot be applied to the bytes of a page. -/
  | unusable (reason : String)
  /-- The encoding refuses a byte. -/
  | refused (reason : String)
deriving DecidableEq, Repr

def EncodingError.message : EncodingError → String
  | unknown name => "unknown encoding: " ++ name
  | notText name =>
    "'" ++ name ++ "' is not a text encoding; use codecs.decode() to handle arbitrary codecs"
  | multiByte => "multi-byte encodings are not supported"
  | unusable reason => reason
  | refused reason => reason

/-- Why a source is not a document. -/
inductive ParseError where
  /-- The source is not well-formed. -/
  | malformed (fault : Fault) (position : Position)
  /-- The declared encoding cannot be used. -/
  | encoding (error : EncodingError)
deriving DecidableEq, Repr

/-- The wording of a parse error: a fault is followed by its place. -/
def ParseError.message : ParseError → String
  | malformed fault position =>
    fault.message ++ " (line " ++ toString position.line ++ ", column " ++
      toString position.column ++ ")"
  | encoding error => error.message

end MemberDocs.Xml
