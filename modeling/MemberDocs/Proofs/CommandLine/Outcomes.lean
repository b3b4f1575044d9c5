import MemberDocs.CommandLine.Program
import MemberDocs.Proofs.Generation.Escapes

/-! # How invocations end

An invocation whose arguments are accepted returns, or it ends with the status 1 and a message, or
something escapes from it. What escapes is known from what is there (`Escapes`,
`invocation_ends_or_escapes`): the command for one document does not report that it cannot decode its
input, which a run does, and the command for several documents does not report a configuration that
cannot be read, values of it that are out of range, nor what a run does not handle.

The list is complete for the file systems that are volumes with the working directory in them: every
file can be read and written, every directory searched and changed, nothing is neither of the two, and
no name is too long. It is complete for arguments and names that are text, for streams that take every
character, and for documents and YAML that are not nested too deeply for the stack of the process that
reads and renders them. Outside of these, a path that cannot be looked at escapes from the command for
several documents as any fault of the search for front matter does, and a stack that is used up escapes
from both commands.
-/

namespace MemberDocs.CommandLine

open Config (LoadError Surroundings)
open Generation (Failure Settings Unhandled)

/-- A configuration that is not reported: the home in its path is not known, its file cannot be read or
is no text, or one of its scalars cannot be read. -/
inductive UnreportedConfiguration : LoadError → Prop where
  | badScalar (fault : Yaml.ScalarFault) : UnreportedConfiguration (.badScalar fault)
  | notText (error : Text.Utf8Error) : UnreportedConfiguration (.notText error)
  | noHome : UnreportedConfiguration .noHome
  | file (fault : FileFault) : UnreportedConfiguration (.file fault)

/-- What escapes from a request: an input that cannot be decoded, a path that cannot be one, a
configuration that is not reported, or what a run does not handle. -/
inductive Escapes (surroundings : Surroundings) (session : Session) (logging : Logging) :
    Request → Escape → Prop where
  | input {arguments : ConvertArguments} {target : Stream} {error : Text.Utf8Error}
      (source : arguments.source? = some .console) (sink : arguments.sink? = some target)
      (undecoded : Text.decodeUtf8 session.input = .error error) :
      Escapes surroundings session logging (.convert arguments) (.input error)
  | encoding {arguments : ConvertArguments} {path : String} {target : Stream}
      {bytes : List UInt8} {error : Xml.EncodingError}
      (source : arguments.source? = some (.file path)) (sink : arguments.sink? = some target)
      (read : session.volume.read surroundings.directory (Path.ofString path) = .ok bytes)
      (refused : Xml.parseBytes bytes = .error (.encoding error)) :
      Escapes surroundings session logging (.convert arguments)
        (.failure (.conversion (.document (.encoding error))))
  | sourcePath {arguments : ConvertArguments} {path : String} {target : Stream}
      (source : arguments.source? = some (.file path)) (sink : arguments.sink? = some target)
      (hasNull : (Path.ofString path).hasNull) :
      Escapes surroundings session logging (.convert arguments) (.failure (.file .nullInPath))
  | sinkPath {arguments : ConvertArguments} {path : String} {stream : Stream} {markdown : String}
      (source : arguments.source? = some stream) (sink : arguments.sink? = some (.file path))
      (converted : (session.markdownFrom surroundings.directory stream).2 = .ok markdown)
      (hasNull : (Path.ofString path).hasNull) :
      Escapes surroundings session logging (.convert arguments) (.failure (.file .nullInPath))
  | configuration {arguments : GenerateArguments} {error : LoadError}
      (unloaded : Config.load surroundings session.volume (Path.ofString arguments.config) =
        .error error) (unreported : UnreportedConfiguration error) :
      Escapes surroundings session logging (.generate arguments) (.configuration error)
  | run {arguments : GenerateArguments} {settings : Settings} {failure : Failure}
      (loaded : arguments.settings surroundings session.volume = .ok settings)
      (unhandled : Unhandled (logging.journal session.volume) surroundings.directory settings
        failure) :
      Escapes surroundings session logging (.generate arguments) (.failure failure)

variable {surroundings : Surroundings} {session : Session} {logging : Logging}
  {directory : Location} {escape : Escape}

/-! ## The command for one document -/

/-- A fault of a path that cannot be read is reported, unless the path cannot be one. -/
theorem kind_of_read {volume : Volume} {path : Path} {fault : FileFault}
    (failed : volume.read directory path = .error fault) :
    (Failure.file fault).kind = .file ∨ fault = .nullInPath ∧ path.hasNull := by
  unfold Volume.read at failed
  split at failed
  next hasNull => exact Or.inr ⟨(Except.error.inj failed).symm, hasNull⟩
  next =>
    left
    split at failed
    next =>
      obtain rfl := Except.error.inj failed
      rfl
    next =>
      split at failed
      next => cases failed
      all_goals
        obtain rfl := Except.error.inj failed
        rfl

theorem kind_of_write {volume : Volume} {path : Path} {content : List UInt8}
    {fault : FileFault} (failed : volume.write directory path content = .error fault) :
    (Failure.file fault).kind = .file ∨ fault = .nullInPath ∧ path.hasNull := by
  unfold Volume.write at failed
  split at failed
  next hasNull => exact Or.inr ⟨(Except.error.inj failed).symm, hasNull⟩
  next =>
    left
    split at failed
    next =>
      obtain rfl := Except.error.inj failed
      rfl
    next =>
      split at failed
      next =>
        obtain rfl := Except.error.inj failed
        rfl
      next => cases failed

theorem eq_of_failConversion {failure : Failure}
    (escaped : (session.failConversion failure).2 = .escaped escape) :
    escape = .failure failure ∧ failure.kind ≠ .content ∧ failure.kind ≠ .file := by
  unfold Session.failConversion at escaped
  split at escaped
  next => cases escaped
  next => cases escaped
  all_goals
    next kind =>
      cases escaped
      exact ⟨rfl, by simp [kind], by simp [kind]⟩

variable {convertArguments : ConvertArguments}

theorem escapes_of_markdownFrom {stream target : Stream}
    (source : convertArguments.source? = some stream)
    (sink : convertArguments.sink? = some target)
    (failed : (session.markdownFrom surroundings.directory stream).2 = .error escape) :
    Escapes surroundings session logging (.convert convertArguments) escape ∨
      ∃ failure, escape = .failure failure ∧ (failure.kind = .content ∨ failure.kind = .file) := by
  cases stream with
  | console =>
    unfold Session.markdownFrom Session.readInput at failed
    cases decoded : Text.decodeUtf8 session.input with
    | error error =>
      simp only [decoded] at failed
      obtain rfl := Except.error.inj failed
      exact Or.inl (.input source sink decoded)
    | ok text =>
      simp only [decoded] at failed
      obtain ⟨error, converted, rfl⟩ := mapError_eq_error_iff.mp failed
      refine Or.inr ⟨_, rfl, Or.inl ?_⟩
      rcases Markdown.error_of_convertText converted with ⟨fault, place, rfl⟩ | ⟨unknown, rfl⟩
      · rfl
      · rfl
  | file path =>
    unfold Session.markdownFrom at failed
    dsimp only at failed
    split at failed
    next fault unread =>
      obtain rfl := Except.error.inj failed
      rcases kind_of_read unread with kind | ⟨rfl, hasNull⟩
      · exact Or.inr ⟨_, rfl, Or.inr kind⟩
      · exact Or.inl (.sourcePath source sink hasNull)
    next bytes read =>
      obtain ⟨error, converted, rfl⟩ := mapError_eq_error_iff.mp failed
      rcases Markdown.error_of_convertElement converted with ⟨reason, refused, rfl⟩ | ⟨unknown, rfl⟩
      · cases reason with
        | malformed fault place => exact Or.inr ⟨_, rfl, Or.inl rfl⟩
        | encoding error => exact Or.inl (.encoding source sink read refused)
      · exact Or.inr ⟨_, rfl, Or.inl rfl⟩

theorem kind_of_deliver {stream : Stream} {markdown : String} {failure : Failure}
    (failed : session.deliver directory markdown stream = .error failure) :
    failure.kind = .file ∨ failure = .file .nullInPath ∧
      ∃ path, stream = .file path ∧ (Path.ofString path).hasNull := by
  cases stream with
  | console => cases failed
  | file path =>
    unfold Session.deliver at failed
    dsimp only at failed
    split at failed
    next fault unwritten =>
      obtain rfl := Except.error.inj failed
      rcases kind_of_write unwritten with kind | ⟨rfl, hasNull⟩
      · exact Or.inl kind
      · exact Or.inr ⟨rfl, path, rfl, hasNull⟩
    next => cases failed

theorem escapes_of_convert
    (escaped : (convert session surroundings.directory convertArguments).2 = .escaped escape) :
    Escapes surroundings session logging (.convert convertArguments) escape := by
  unfold convert at escaped
  split at escaped
  next stream target source sink =>
    split at escaped
    next read failure failed =>
      obtain ⟨rfl, notContent, notFile⟩ := eq_of_failConversion escaped
      rcases escapes_of_markdownFrom source sink (congrArg Prod.snd failed) with
        escapes | ⟨other, same, kind⟩
      · exact escapes
      · cases same
        rcases kind with kind | kind
        · exact absurd kind notContent
        · exact absurd kind notFile
    next read other notFailure failed =>
      obtain rfl := Ending.escaped.inj escaped
      rcases escapes_of_markdownFrom source sink (congrArg Prod.snd failed) with
        escapes | ⟨failure, same, kind⟩
      · exact escapes
      · exact absurd same (notFailure failure)
    next read markdown converted =>
      split at escaped
      next failure undelivered =>
        obtain ⟨rfl, -, notFile⟩ := eq_of_failConversion escaped
        rcases kind_of_deliver undelivered with kind | ⟨rfl, path, rfl, hasNull⟩
        · exact absurd kind notFile
        · exact .sinkPath source sink (congrArg Prod.snd converted) hasNull
      next => cases escaped
  next => cases escaped

/-! ## The command for several documents -/

/-- A configuration is reported if its text is no YAML, or no mapping. -/
def Reported (error : LoadError) : Prop :=
  (∃ name reason, error = .malformed name reason) ∨ error = .notMapping

theorem reported_ofFault (name : String) (fault : Yaml.Fault) :
    Reported (.ofFault name fault) ∨ UnreportedConfiguration (.ofFault name fault) := by
  cases fault with
  | refused reason => exact Or.inl (Or.inl ⟨name, reason, rfl⟩)
  | scalar fault => exact Or.inr (.badScalar fault)

theorem reported_of_settingsOfText {root : Path} {name : String} {text : List Char}
    {error : LoadError} (failed : Config.settingsOfText root name text = .error error) :
    Reported error ∨ UnreportedConfiguration error := by
  unfold Config.settingsOfText at failed
  split at failed
  next => cases failed
  next =>
    split at failed
    next fault unparsed =>
      obtain rfl := Except.error.inj failed
      exact reported_ofFault name fault
    next data parsed =>
      split at failed
      next => cases failed
      next entries root =>
        obtain ⟨fault, -, rfl⟩ := mapError_eq_error_iff.mp failed
        exact reported_ofFault name fault
      next =>
        obtain rfl := Except.error.inj failed
        exact Or.inl (Or.inr rfl)

theorem unreported_of_locate {volume : Volume} {path : Path} {error : LoadError}
    (failed : Config.locate surroundings volume path = .error error) :
    UnreportedConfiguration error := by
  unfold Config.locate at failed
  cases expanded : Config.expandHome surroundings path with
  | ok path =>
    rw [expanded] at failed
    simp only [bind, Except.bind] at failed
    split at failed
    next =>
      obtain rfl := Except.error.inj failed
      exact .file _
    next => cases failed
  | error reason =>
    rw [expanded] at failed
    obtain rfl := Except.error.inj failed
    unfold Config.expandHome at expanded
    split at expanded
    next =>
      split at expanded
      next =>
        split at expanded
        next => cases expanded
        next =>
          obtain rfl := Except.error.inj expanded
          exact .noHome
      next => cases expanded
    next => cases expanded

theorem reported_of_load {volume : Volume} {path : Path} {error : LoadError}
    (failed : Config.load surroundings volume path = .error error) :
    Reported error ∨ UnreportedConfiguration error := by
  unfold Config.load at failed
  cases located : Config.locate surroundings volume path with
  | error reason =>
    rw [located] at failed
    obtain rfl := Except.error.inj failed
    exact Or.inr (unreported_of_locate located)
  | ok location =>
    rw [located] at failed
    simp only [bind, Except.bind] at failed
    split at failed
    next => cases failed
    next there =>
      split at failed
      next fault unread =>
        obtain rfl := Except.error.inj failed
        exact Or.inr (.file fault)
      next bytes read =>
        split at failed
        next error undecoded =>
          obtain rfl := Except.error.inj failed
          exact Or.inr (.notText error)
        next text decoded => exact reported_of_settingsOfText failed

theorem escapes_of_generate {generateArguments : GenerateArguments}
    (escaped : (generate session surroundings logging generateArguments).2 = .escaped escape) :
    Escapes surroundings session logging (.generate generateArguments) escape := by
  unfold generate at escaped
  cases loaded : Config.load surroundings session.volume
      (Path.ofString generateArguments.config) with
  | ok settings =>
    have resolved : generateArguments.settings surroundings session.volume =
        .ok (generateArguments.override settings) := by
      rw [GenerateArguments.settings, loaded]
      rfl
    rw [resolved] at escaped
    unfold runWith at escaped
    dsimp only at escaped
    split at escaped
    next failure failed =>
      obtain rfl := Ending.escaped.inj escaped
      exact .run resolved (Generation.run_eq_error_iff.mp failed)
    next =>
      split at escaped
      next => cases escaped
      next => cases escaped
  | error error =>
    simp only [GenerateArguments.settings, loaded, Except.map] at escaped
    split at escaped
    next => cases escaped
    next => cases escaped
    next notMalformed notMapping =>
      obtain rfl := Ending.escaped.inj escaped
      rcases reported_of_load loaded with (⟨name, reason, rfl⟩ | rfl) | unreported
      · exact absurd rfl (notMalformed name reason)
      · exact absurd rfl notMapping
      · exact .configuration loaded unreported

/-! ## Invocations -/

theorem failConversion_of_unexpected {failure : Failure} (notContent : failure.kind ≠ .content)
    (notFile : failure.kind ≠ .file) :
    (session.failConversion failure).2 = .escaped (.failure failure) := by
  unfold Session.failConversion
  split
  next kind => exact absurd kind notContent
  next kind => exact absurd kind notFile
  next => rfl
  next => rfl

theorem convert_of_notRead {stream target : Stream} {failure : Failure}
    (source : convertArguments.source? = some stream)
    (sink : convertArguments.sink? = some target)
    (failed : session.markdownFrom directory stream = (session, .error (.failure failure)))
    (notContent : failure.kind ≠ .content) (notFile : failure.kind ≠ .file) :
    (convert session directory convertArguments).2 = .escaped (.failure failure) := by
  simp only [convert, source, sink, failed]
  exact failConversion_of_unexpected notContent notFile

/-- What escapes is not reported. -/
theorem escaped_of_escapes {request : Request}
    (escapes : Escapes surroundings session logging request escape) (verbose : Bool)
    (logFile : Option String) :
    (Invocation.carryOut ⟨verbose, logFile, request⟩ session surroundings logging).2 =
      .escaped escape := by
  cases escapes with
  | input source sink undecoded =>
    simp [Invocation.carryOut, convert, source, sink, Session.markdownFrom, Session.readInput,
      undecoded]
  | @encoding arguments path target bytes error source sink read refused =>
    have converted : Markdown.convertBytes bytes = .error (.document (.encoding error)) := by
      rw [Markdown.convertBytes, refused]
      rfl
    refine convert_of_notRead source sink ?_ ?_ ?_
    · simp [Session.markdownFrom, read, converted, Except.mapError]
    · cases error <;> simp [Failure.kind, Generation.encodingKind]
    · cases error <;> simp [Failure.kind, Generation.encodingKind]
  | sourcePath source sink hasNull =>
    refine convert_of_notRead source sink ?_ ?_ ?_
    · simp [Session.markdownFrom, Volume.read, hasNull]
    · simp [Failure.kind]
    · simp [Failure.kind]
  | @sinkPath arguments path stream markdown source sink converted hasNull =>
    cases read : session.markdownFrom surroundings.directory stream with
    | mk later outcome =>
      obtain rfl : outcome = .ok markdown := by
        rw [read] at converted
        exact converted
      have undelivered : later.deliver surroundings.directory markdown (.file path) =
          .error (.file .nullInPath) := by
        simp [Session.deliver, Volume.write, hasNull]
      simp only [Invocation.carryOut, convert, source, sink, read, undelivered]
      exact failConversion_of_unexpected (by simp [Failure.kind]) (by simp [Failure.kind])
  | configuration unloaded unreported =>
    cases unreported <;>
      simp [Invocation.carryOut, generate, GenerateArguments.settings, unloaded, Except.map]
  | run loaded unhandled =>
    have failed := Generation.run_eq_error_iff.mpr unhandled
    simp only [Invocation.carryOut, generate, loaded, runWith, failed]

theorem eq_one_of_failConversion {failure : Failure} {status : Nat}
    (exited : (session.failConversion failure).2 = .exited status) : status = 1 := by
  unfold Session.failConversion at exited
  split at exited
  next => exact (Ending.exited.inj exited).symm
  next => exact (Ending.exited.inj exited).symm
  next => cases exited
  next => cases exited

theorem eq_one_of_convert {status : Nat}
    (exited : (convert session directory convertArguments).2 = .exited status) : status = 1 := by
  unfold convert at exited
  split at exited
  next =>
    split at exited
    next => exact eq_one_of_failConversion exited
    next => cases exited
    next =>
      split at exited
      next => exact eq_one_of_failConversion exited
      next => cases exited
  next => exact (Ending.exited.inj exited).symm

theorem eq_one_of_generate {generateArguments : GenerateArguments} {status : Nat}
    (exited : (generate session surroundings logging generateArguments).2 = .exited status) :
    status = 1 := by
  unfold generate at exited
  split at exited
  next =>
    split at exited
    next => exact (Ending.exited.inj exited).symm
    next => exact (Ending.exited.inj exited).symm
    next => cases exited
  next =>
    unfold runWith at exited
    dsimp only at exited
    split at exited
    next => cases exited
    next =>
      split at exited
      next => cases exited
      next => exact (Ending.exited.inj exited).symm

/-- An invocation whose command is carried out ends in one of three ways. -/
theorem ends_carryOut (invocation : Invocation) (session : Session) (surroundings : Surroundings)
    (logging : Logging) :
    (invocation.carryOut session surroundings logging).2.status? ∈ [some 0, some 1] ∨
      ∃ escape, (invocation.carryOut session surroundings logging).2 = .escaped escape := by
  cases ending : (invocation.carryOut session surroundings logging).2 with
  | returned => exact Or.inl (by simp [Ending.status?])
  | escaped escape => exact Or.inr ⟨escape, rfl⟩
  | exited status =>
    left
    obtain rfl : status = 1 := by
      unfold Invocation.carryOut at ending
      split at ending
      next => exact eq_one_of_convert ending
      next => exact eq_one_of_generate ending
    simp [Ending.status?]

/-- **Endings.** An invocation whose arguments are accepted and whose log can be opened returns, or it
ends with the status 1, or something escapes from it: exactly what its command does not report. A run
is left without a result exactly by what it does not handle. -/
theorem invocation_ends_or_escapes (time : String) {arguments : List String}
    {invocation : Invocation} {opened : Volume}
    (accepted : Invocation.ofArguments arguments = .ok invocation)
    (opens : invocation.openLogging surroundings.directory time session.volume =
      .ok (logging, opened)) :
    ((invoke surroundings time session arguments).2.status? ∈ [some 0, some 1] ∨
      ∃ escape, (invoke surroundings time session arguments).2 = .escaped escape) ∧
    (∀ escape, (invoke surroundings time session arguments).2 = .escaped escape ↔
      Escapes surroundings { session with volume := opened } logging invocation.request escape) ∧
    ∀ (journal : Generation.Journal) (directory : Location) (settings : Settings)
      (failure : Failure), (Generation.run journal directory settings).2 = .error failure ↔
        Unhandled journal directory settings failure := by
  simp only [invoke, accepted, opens]
  refine ⟨ends_carryOut _ _ _ _, fun escape => ⟨?_, fun escapes => ?_⟩,
    fun _ _ _ _ => Generation.run_eq_error_iff⟩
  · unfold Invocation.carryOut
    intro escaped
    split at escaped
    next convertArguments request =>
      rw [request]
      exact escapes_of_convert escaped
    next generateArguments request =>
      rw [request]
      exact escapes_of_generate escaped
  · exact escaped_of_escapes escapes invocation.verbose invocation.logFile

/-- A conversion from the console to the console. -/
def consoleArguments : List String := ["convert", "--cin", "--cout"]

def consoleInvocation : Invocation :=
  { request := .convert { fromConsole := true, toConsole := true } }

/-- An input in an encoding that there is not. -/
def unknownEncodingVolume : Volume :=
  ⟨[(["api.xml"],
    .file (Text.encodeUtf8 "<?xml version='1.0' encoding='none'?><doc/>"))]⟩

def unknownEncodingSettings : Settings :=
  { inputs := [⟨.relative, ["api.xml"]⟩], documentation := some ⟨.relative, ["docs"]⟩ }

theorem console_conversion_ends :
    (¬ ∃ escape, (invoke ⟨[], []⟩ "" { volume := ⟨[]⟩, input := Text.encodeUtf8 "<doc/>" }
      consoleArguments).2 = .escaped escape) ∧
      ∃ failure, Unhandled { volume := unknownEncodingVolume } [] unknownEncodingSettings
        failure := by
  have accepted : Invocation.ofArguments consoleArguments = .ok consoleInvocation :=
    toOption_eq_some_iff.mp (by decide +kernel)
  have decoded : Text.decodeUtf8 (Text.encodeUtf8 "<doc/>") = .ok "<doc/>".toList :=
    toOption_eq_some_iff.mp (by decide +kernel)
  obtain ⟨failure, stopped⟩ := toOption_eq_none_iff.mp
    (by decide +kernel : (Generation.run { volume := unknownEncodingVolume } []
      unknownEncodingSettings).2.toOption = none)
  obtain ⟨-, ends, runs⟩ := @invocation_ends_or_escapes ⟨[], []⟩
    { volume := ⟨[]⟩, input := Text.encodeUtf8 "<doc/>" } _ "" _ _ _ accepted rfl
  refine ⟨?_, failure, (runs _ _ _ _).mp stopped⟩
  rintro ⟨escape, escaped⟩
  have escapes := (ends escape).mp escaped
  generalize requested : consoleInvocation.request = request at escapes
  cases escapes with
  | input source sink undecoded => cases decoded.symm.trans undecoded
  | encoding source sink read refused =>
    cases requested
    cases source
  | sourcePath source sink hasNull =>
    cases requested
    cases source
  | sinkPath source sink converted hasNull =>
    cases requested
    cases sink
  | configuration => cases requested
  | run => cases requested

/-- A byte that is no text leaves a conversion without a status, and an encoding that there is not
leaves a run without a result. -/
theorem unreadable_input_escapes :
    Invocation.ofArguments consoleArguments = .ok consoleInvocation ∧
      consoleInvocation.logFile = none ∧
      (invoke ⟨[], []⟩ "" { volume := ⟨[]⟩, input := [0xFF] } consoleArguments).2.status? = none ∧
      ∃ failure, (Generation.run { volume := unknownEncodingVolume } []
        unknownEncodingSettings).2 = .error failure := by
  have undecoded : (invoke ⟨[], []⟩ "" { volume := ⟨[]⟩, input := [0xFF] }
      consoleArguments).2.status? = none := by decide +kernel
  have stopped : (Generation.run { volume := unknownEncodingVolume } []
      unknownEncodingSettings).2.toOption = none := by decide +kernel
  exact ⟨toOption_eq_some_iff.mp (by decide +kernel), rfl, undecoded,
    toOption_eq_none_iff.mp stopped⟩

end MemberDocs.CommandLine
