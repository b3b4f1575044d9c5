import MemberDocs.Proofs.CommandLine.Outcomes
import MemberDocs.Proofs.Markdown.LineEndings
import MemberDocs.Proofs.Text.Utf8

/-! # Documents from the console and from files

The console is read as text with unified line endings, a file as bytes. A document that names no
encoding but UTF-8 is converted alike from both (`console_and_file_agree`), unless one of the two ways
alone leads to the limit of the entities that may be replaced.
-/

namespace MemberDocs.CommandLine

open Generation (Failure)
open Markdown (ConversionError OnlyOneExceeds convertText)
open Text (encodeUtf8 unifyChars)
open Xml (nestedSource)

variable {session : Session} {directory : Location} {source path : String}

theorem markdownFrom_console (input : session.input = encodeUtf8 source) :
    session.markdownFrom directory .console =
      ({ session with input := [] },
        (convertText (String.ofList (unifyChars source.toList))).mapError
          fun error => .failure (.conversion error)) := by
  simp only [Session.markdownFrom, Session.readInput, input, Text.decodeUtf8_encodeUtf8]

theorem markdownFrom_file
    (content : session.volume.read directory (Path.ofString path) = .ok (encodeUtf8 source))
    (filled : '\x00' ∉ source.toList) (utf8 : Xml.NamesUtf8 source.toList) :
    session.markdownFrom directory (.file path) =
      (session, (convertText source).mapError fun error => .failure (.conversion error)) := by
  simp only [Session.markdownFrom, content, Markdown.convertBytes_of_namesUtf8 filled utf8]

/-- A document in a text that cannot be converted is reported. -/
theorem failConversion_of_convertText {error : ConversionError}
    (failed : convertText source = .error error) (session : Session) :
    session.failConversion (.conversion error) =
      session.fail ("xmldoc2md convert failed: " ++ error.message ++ "\n") := by
  rcases Markdown.error_of_convertText failed with ⟨fault, place, rfl⟩ | ⟨unknown, rfl⟩ <;> rfl

/-- Delivers Markdown and ends the conversion. -/
def Session.conclude (session : Session) (directory : Location) (markdown : String)
    (target : Stream) : Session × Ending :=
  match session.deliver directory markdown target with
  | .error failure => session.failConversion failure
  | .ok session => (session, .returned)

/-- A document in a text is converted and delivered, or the conversion is reported. -/
theorem convert_of_markdownFrom {arguments : ConvertArguments} {stream target : Stream}
    {read : Session} (from_ : arguments.source? = some stream) (sink : arguments.sink? = some target)
    (told : session.markdownFrom directory stream =
      (read, (convertText source).mapError fun error => .failure (.conversion error))) :
    (∃ error, convertText source = .error error ∧ convert session directory arguments =
      read.fail ("xmldoc2md convert failed: " ++ error.message ++ "\n")) ∨
    ∃ markdown, convertText source = .ok markdown ∧
      convert session directory arguments = read.conclude directory markdown target := by
  unfold convert
  rw [from_, sink]
  dsimp only
  rw [told]
  cases converted : convertText source with
  | error error => exact Or.inl ⟨error, rfl, failConversion_of_convertText converted read⟩
  | ok markdown => exact Or.inr ⟨markdown, rfl, rfl⟩

/-- What has not been read of the input has no part in the delivery. -/
theorem conclude_of_input (input : List UInt8) (markdown : String) (target : Stream) :
    { session with input }.conclude directory markdown target =
      (session.conclude directory markdown target).map (fun read => { read with input }) id := by
  cases target with
  | console => rfl
  | file path =>
    simp only [Session.conclude, Session.deliver]
    cases session.volume.write directory (Path.ofString path) (encodeUtf8 markdown) with
    | ok volume => rfl
    | error fault =>
      simp only [Session.failConversion]
      cases (Failure.file fault).kind <;> rfl

/-- Invocations that end alike and leave the same behind. -/
structure EndAlike (first second : Session × Ending) : Prop where
  ending : first.2 = second.2
  volume : first.1.volume = second.1.volume
  output : first.1.output = second.1.output

/-- The invocation succeeds or ends with the status 1, unless its sink cannot be a path. -/
def ReturnsOrExits (target : Stream) (ended : Session × Ending) : Prop :=
  ended.2 = .returned ∨ ended.2 = .exited 1 ∨ ∃ path, target = .file path ∧ (Path.ofString path).hasNull

theorem returnsOrExits_conclude (session : Session) (directory : Location) (markdown : String)
    (target : Stream) : ReturnsOrExits target (session.conclude directory markdown target) := by
  unfold Session.conclude
  cases delivered : session.deliver directory markdown target with
  | ok session => exact Or.inl rfl
  | error failure =>
    rcases kind_of_deliver delivered with kind | ⟨-, hasNull⟩
    · refine Or.inr (Or.inl ?_)
      simp only [Session.failConversion, kind]
      rfl
    · exact Or.inr (Or.inr hasNull)

/-- **One document, two sources.** A document that names no encoding but UTF-8 is converted alike from
the console and from a file, with the same message if nothing unifies its line endings. -/
theorem console_and_file_agree {fromConsole fromFile : ConvertArguments} {target : Stream}
    (console : fromConsole.source? = some .console) (file : fromFile.source? = some (.file path))
    (sink : fromConsole.sink? = some target) (sink' : fromFile.sink? = some target)
    (input : session.input = encodeUtf8 source)
    (content : session.volume.read directory (Path.ofString path) = .ok (encodeUtf8 source))
    (filled : '\x00' ∉ source.toList) (utf8 : Xml.NamesUtf8 source.toList)
    (within : '\r' ∈ source.toList → ¬ OnlyOneExceeds (convertText source)
      (convertText (String.ofList (unifyChars source.toList)))) :
    let read := convert session directory fromConsole
    let read' := convert session directory fromFile
    EndAlike read read' ∧ ReturnsOrExits target read ∧
      ('\r' ∉ source.toList → read.1.errors = read'.1.errors) := by
  have unbroken : '\r' ∉ source.toList → String.ofList (unifyChars source.toList) = source := by
    intro returns
    rw [Text.unifyChars_of_no_returns returns, String.ofList_toList]
  have outcomes := Markdown.toOption_convertText_unifyChars filled (by
    by_cases returns : '\r' ∈ source.toList
    · exact within returns
    · rw [unbroken returns]
      exact Markdown.not_onlyOneExceeds_self _)
  dsimp only
  rcases convert_of_markdownFrom console sink (markdownFrom_console input) with
    ⟨error, failed, ended⟩ | ⟨markdown, converted, ended⟩ <;>
  rcases convert_of_markdownFrom file sink' (markdownFrom_file content filled utf8) with
    ⟨error', failed', ended'⟩ | ⟨markdown', converted', ended'⟩
  · rw [ended, ended']
    refine ⟨⟨rfl, rfl, rfl⟩, Or.inr (Or.inl rfl), fun returns => ?_⟩
    rw [unbroken returns, failed'] at failed
    cases failed
    rfl
  · rw [failed, converted'] at outcomes
    cases outcomes
  · rw [converted, failed'] at outcomes
    cases outcomes
  · rw [converted, converted'] at outcomes
    obtain rfl : markdown = markdown' := Option.some.inj outcomes
    rw [ended, ended', conclude_of_input]
    exact ⟨⟨rfl, rfl, rfl⟩, returnsOrExits_conclude session directory markdown target, fun _ => rfl⟩

/-- A session with the same document on its input and in the file `api.xml`. -/
def twiceSession (source : String) : Session where
  volume := ⟨[(["api.xml"], .file (encodeUtf8 source))]⟩
  input := encodeUtf8 source

def consoleToConsole : ConvertArguments := { fromConsole := true, toConsole := true }

def fileToConsole : ConvertArguments := { inputFile := some "api.xml", toConsole := true }

theorem input_twiceSession (source : String) :
    (twiceSession source).input = encodeUtf8 source := rfl

theorem read_twiceSession (source : String) :
    (twiceSession source).volume.read [] (Path.ofString "api.xml") = .ok (encodeUtf8 source) := by
  have path : Path.ofString "api.xml" = ⟨.relative, ["api.xml"]⟩ := by decide +kernel
  rw [path]
  rfl

theorem returns_are_unified_alike :
    let read := convert (twiceSession "<doc>\r\n</doc>") [] consoleToConsole
    let read' := convert (twiceSession "<doc>\r\n</doc>") [] fileToConsole
    EndAlike read read' ∧ ReturnsOrExits .console read := by
  have within : ¬ OnlyOneExceeds (convertText "<doc>\r\n</doc>")
      (convertText (String.ofList (unifyChars "<doc>\r\n</doc>".toList))) := by
    have first : (convertText "<doc>\r\n</doc>").toOption.isSome := by decide +kernel
    have second : (convertText (String.ofList
        (unifyChars "<doc>\r\n</doc>".toList))).toOption.isSome := by decide +kernel
    rintro (⟨-, _, exceeds⟩ | ⟨⟨_, exceeds⟩, -⟩)
    · rw [exceeds] at second
      cases second
    · rw [exceeds] at first
      cases first
  have alike := @console_and_file_agree (twiceSession "<doc>\r\n</doc>") [] "<doc>\r\n</doc>"
    "api.xml" consoleToConsole fileToConsole .console rfl rfl rfl rfl rfl (read_twiceSession _)
    (by decide +kernel) (Xml.namesUtf8_of_other (by decide)) fun _ => within
  exact ⟨alike.1, alike.2.1⟩

/-- A document that exceeds the limit only before its line endings are unified is converted from the
console and refused from a file. -/
theorem parted_of_exceeds {source markdown : String} (filled : '\x00' ∉ source.toList)
    (utf8 : Xml.NamesUtf8 source.toList)
    (unified : convertText (String.ofList (unifyChars source.toList)) = .ok markdown)
    (exceeds : Markdown.ExceedsEntities (convertText source)) :
    (convert (twiceSession source) [] consoleToConsole).2 = .returned ∧
      (convert (twiceSession source) [] fileToConsole).2 = .exited 1 := by
  obtain ⟨place, exceeds⟩ := exceeds
  constructor
  · have told := @markdownFrom_console (twiceSession source) [] source rfl
    rw [unified] at told
    unfold convert
    simp only [show consoleToConsole.source? = some .console from rfl,
      show consoleToConsole.sink? = some .console from rfl, told]
    rfl
  · have told := markdownFrom_file (read_twiceSession source) filled utf8
    rw [exceeds] at told
    unfold convert
    simp only [show fileToConsole.source? = some (.file "api.xml") from rfl,
      show fileToConsole.sink? = some .console from rfl, told]
    rfl

/-- A document that is near the limit of the entities that may be replaced, with line endings of two
characters. -/
def partedSource : String := String.ofList (nestedSource ['\r', '\n'])

theorem limit_parts_console_from_file :
    (twiceSession partedSource).input = encodeUtf8 partedSource ∧
    (twiceSession partedSource).volume.read [] (Path.ofString "api.xml") =
      .ok (encodeUtf8 partedSource) ∧
    '\x00' ∉ partedSource.toList ∧ Xml.NamesUtf8 partedSource.toList ∧
    (convert (twiceSession partedSource) [] consoleToConsole).2 = .returned ∧
    (convert (twiceSession partedSource) [] fileToConsole).2 = .exited 1 := by
  have characters : partedSource.toList = nestedSource ['\r', '\n'] := String.toList_ofList
  have filled : '\x00' ∉ partedSource.toList := by
    rw [characters]
    decide +kernel
  have utf8 : Xml.NamesUtf8 partedSource.toList := by
    rw [characters]
    exact Xml.namesUtf8_of_other (by decide)
  have unified := Markdown.convertText_nested_unified
  rw [← characters] at unified
  exact ⟨input_twiceSession partedSource, read_twiceSession partedSource, filled, utf8,
    parted_of_exceeds filled utf8 unified Markdown.exceedsEntities_nested⟩

end MemberDocs.CommandLine
