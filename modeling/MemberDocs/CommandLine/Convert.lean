import MemberDocs.CommandLine.Session
import MemberDocs.Text.LineBreak

/-! # The command for one document

Reads a document from a file or from the standard input and puts its Markdown into a file or on the
standard output. A file is read as bytes, so that its encoding declaration counts; the standard input
is text already.
-/

namespace MemberDocs.CommandLine

open Generation (Failure)

/-- Reads all of the standard input as text. -/
def Session.readInput (session : Session) : Session × Except Text.Utf8Error String :=
  match Text.decodeUtf8 session.input with
  | .error error => (session, .error error)
  | .ok text => ({ session with input := [] }, .ok (String.ofList (Text.unifyChars text)))

/-- The Markdown of the document that a stream holds. -/
def Session.markdownFrom (session : Session) (directory : Location) :
    Stream → Session × Except Escape String
  | .console =>
    match session.readInput with
    | (session, .error error) => (session, .error (.input error))
    | (session, .ok source) =>
      (session, (Markdown.convertText source).mapError fun error => .failure (.conversion error))
  | .file path =>
    match session.volume.read directory (Path.ofString path) with
    | .error fault => (session, .error (.failure (.file fault)))
    | .ok bytes =>
      (session, (Markdown.convertBytes bytes).mapError fun error => .failure (.conversion error))

def Session.deliver (session : Session) (directory : Location) (markdown : String) :
    Stream → Except Failure Session
  | .console => .ok (session.print markdown)
  | .file path =>
    match session.volume.write directory (Path.ofString path) (Text.encodeUtf8 markdown) with
    | .error fault => .error (.file fault)
    | .ok volume => .ok { session with volume }

/-- Ends a conversion that has failed. Only failures of content and of files are reported. -/
def Session.failConversion (session : Session) (failure : Failure) : Session × Ending :=
  match failure.kind with
  | .content | .file => session.fail ("xmldoc2md convert failed: " ++ failure.message ++ "\n")
  | .text | .other => (session, .escaped (.failure failure))

def convert (session : Session) (directory : Location) (arguments : ConvertArguments) :
    Session × Ending :=
  match arguments.source?, arguments.sink? with
  | some source, some sink =>
    match session.markdownFrom directory source with
    | (session, .error (.failure failure)) => session.failConversion failure
    | (session, .error escape) => (session, .escaped escape)
    | (session, .ok markdown) =>
      match session.deliver directory markdown sink with
      | .error failure => session.failConversion failure
      | .ok session => (session, .returned)
  | _, _ => session.fail "Error: Must specify input and output (file or console).\n"

end MemberDocs.CommandLine
