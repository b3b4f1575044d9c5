import MemberDocs.Doc.Node

/-! # Events of a document

A document told in order: the start and the end of each element, and the character data between
them. Data that is told in several events is one text.
-/

namespace MemberDocs.Xml

/-- A step in the telling of a document. -/
inductive Event where
  | start (tag : Tag)
  | data (content : String) (position : Position)
  | finish (name : String)
deriving Repr

end MemberDocs.Xml
