import MemberDocs.Yaml.Fault

/-! # Tokens -/

namespace MemberDocs.Yaml

/-- A directive in front of a document. -/
inductive Directive where
  | version (major minor : Nat)
  | handle (handle leading : String)
  | reserved (name : String)
deriving DecidableEq, Repr

/-- A token. Blocks are opened and closed by tokens that the indentation makes. A text that cannot
be read up to its end has a `fault` as its last token. -/
inductive Token where
  | streamEnd
  | fault (fault : Fault)
  | directive (directive : Directive)
  | documentStart
  | documentEnd
  | blockSequenceStart
  | blockMappingStart
  | blockEnd
  | flowSequenceStart
  | flowSequenceEnd
  | flowMappingStart
  | flowMappingEnd
  | blockEntry
  | flowEntry
  | key
  | value
  | alias (name : String)
  | anchor (name : String)
  | tag (handle : Option String) (suffix : String)
  | scalar (text : String) (plain : Bool)
deriving DecidableEq, Repr

end MemberDocs.Yaml
