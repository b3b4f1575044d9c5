import MemberDocs.FrontMatter.Options
import MemberDocs.Markdown.Conversion
import MemberDocs.Volume.Basic

/-! # Failures

What can stop a run or one of its steps. A failure has a kind (`FailureKind`), by which the callers
decide whether they report it or pass it on.
-/

namespace MemberDocs.Generation

/-- An input with a tag that has no rule. -/
structure TagReport where
  tag : Markdown.UnknownTag
  source : String
deriving DecidableEq, Repr

def TagReport.message (report : TagReport) : String :=
  report.tag.message (some report.source)

/-- What stops a run. -/
inductive Failure where
  | conversion (error : Markdown.ConversionError)
  | unknownTag (report : TagReport)
  | file (fault : FileFault)
  | nothingToMerge
  | frontMatter (error : FrontMatter.OptionsError)
deriving DecidableEq, Repr

def Failure.message : Failure → String
  | conversion error => error.message
  | unknownTag report => report.message
  | file fault => fault.message
  | nothingToMerge => "No Markdown files available to merge"
  | frontMatter error => error.message

/-- The kinds of failures. -/
inductive FailureKind where
  /-- The documentation or the settings are wrong. -/
  | content
  /-- A file or a directory is in the way or is not there. -/
  | file
  /-- Bytes are not what their encoding demands. -/
  | text
  /-- A value is out of the range of what can be handled. -/
  | other
deriving DecidableEq, Repr

/-- The kind of a failure in an encoding. -/
def encodingKind : Xml.EncodingError → FailureKind
  | .unusable _ | .refused _ => .text
  | .unknown _ | .notText _ | .multiByte => .other

def Failure.kind : Failure → FailureKind
  | conversion (.document (.malformed _ _)) => .content
  | conversion (.document (.encoding error)) => encodingKind error
  | conversion (.rendering (.unknownTag _)) => .content
  | conversion (.rendering (.emptySlot _)) => .other
  | unknownTag _ => .content
  | file .nullInPath => .other
  | file _ => .file
  | nothingToMerge => .content
  | frontMatter (.badScalar _) => .other
  | frontMatter _ => .content

end MemberDocs.Generation
