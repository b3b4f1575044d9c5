import MemberDocs.Proofs.CommandLine.Handlers
import MemberDocs.Proofs.CommandLine.LeadingOptions
import MemberDocs.Proofs.Generation.LogFile

/-! # What a log file changes on the console

An invocation that keeps a log file does what it does without one, as long as no path that it uses
passes the log file. It ends alike, tells the same on the standard output and leaves the same behind.
On the standard error stream it tells the same too, unless a run reports a failure: then the line of the
failure is followed by a trace that is not told without a log file
(`log_file_adds_only_a_trace`).
-/

namespace MemberDocs.CommandLine

open Config (Surroundings)
open Generation (Failure Journal LogFile LogLevel LogRecord PassesBy Settings effectiveSettings
  failureRecord reported?)
open Collection (leadsToMarkdown)
open Volume (OnTheWay)

/-! ## What is shown -/

namespace Logging

theorem shown_append (logging : Logging) (first second : List LogRecord) :
    logging.shown (first ++ second) = logging.shown first ++ logging.shown second :=
  logging.logger.shown_append first second

/-- The console shows the records that matter enough, whether there is a log file or not. -/
theorem shown_eq (verbose : Bool) (file : Option LogFile) (records : List LogRecord) :
    Logging.shown { verbose, file } records =
      String.join ((records.filter fun record => verbose || record.level ≠ .debug).map
        consoleLine) :=
  Logger.shown_of_own (Logger.writers_configure id {} 0 verbose) records

theorem shown_error (verbose : Bool) (file : Option LogFile) {record : LogRecord}
    (error : record.level = .error) : Logging.shown { verbose, file } [record] = consoleLine record := by
  simp [shown_eq, error]

end Logging

/-- The line of a failure that a run reports, up to its end. -/
def failureLine (failure : Failure) : String :=
  "[xmldoc2md] " ++ LogLevel.error.name ++ " " ++
    ("Markdown generation failed: " ++ failure.message)

/-- The second text is the first one, with a trace after the line of a failure if there is one. -/
def AddsTrace : Option Failure → String → String → Prop
  | none, plain, logged => logged = plain
  | some failure, plain, logged =>
    ∃ before after, plain = before ++ failureLine failure ++ "\n" ++ after ∧
      logged = before ++ failureLine failure ++ "\n<traceback>" ++ "\n" ++ after

theorem AddsTrace.between {failure? : Option Failure} {plain logged : String}
    (adds : AddsTrace failure? plain logged) (before after : String) :
    AddsTrace failure? (before ++ plain ++ after) (before ++ logged ++ after) := by
  cases failure? with
  | none => exact congrArg (before ++ · ++ after) adds
  | some failure =>
    obtain ⟨first, last, rfl, rfl⟩ := adds
    exact ⟨before ++ first, last ++ after, by simp only [String.append_assoc],
      by simp only [String.append_assoc]⟩

theorem addsTrace_shown {told : List LogRecord} (plain : ∀ record ∈ told, record.hasTrace = false)
    {journal : Journal} (traces : journal.traces = true) (failure? : Option Failure)
    (file : Option LogFile) :
    AddsTrace failure?
      (Logging.shown {} ((told ++ (failure?.map (failureRecord journal)).toList).map
        LogRecord.untraced))
      (Logging.shown { file } (told ++ (failure?.map (failureRecord journal)).toList)) := by
  have untraced : told.map LogRecord.untraced = told := by
    conv_rhs => rw [← List.map_id told]
    refine List.map_congr_left fun record among => ?_
    obtain ⟨level, source, message, hasTrace⟩ := record
    obtain rfl : hasTrace = false := plain _ among
    rfl
  have same : Logging.shown {} told = Logging.shown { file } told := by
    rw [Logging.shown_eq false none, Logging.shown_eq false file]
  rw [List.map_append, untraced, Logging.shown_append, Logging.shown_append, ← same]
  cases failure? with
  | none => rfl
  | some failure =>
    have plainLine : Logging.shown {} [(failureRecord journal failure).untraced] =
        failureLine failure ++ "" ++ "\n" := Logging.shown_error false none rfl
    have tracedLine : Logging.shown { file } [failureRecord journal failure] =
        failureLine failure ++ "\n<traceback>" ++ "\n" := by
      rw [Logging.shown_error false file rfl, failureRecord, traces]
      rfl
    refine ⟨Logging.shown {} told, "", ?_, ?_⟩
    · rw [String.append_empty] at plainLine
      rw [String.append_empty, String.append_assoc, ← plainLine]
      rfl
    · rw [String.append_empty, String.append_assoc, String.append_assoc,
        ← @String.append_assoc (failureLine failure), ← tracedLine]
      rfl

/-! ## Commands without the log file -/

/-- The session as it would be without a file at a location. -/
def Session.without (session : Session) (location : Location) : Session :=
  { session with volume := session.volume.without location }

@[simp] theorem Session.volume_without (session : Session) (location : Location) :
    (session.without location).volume = session.volume.without location := rfl

@[simp] theorem Session.input_without (session : Session) (location : Location) :
    (session.without location).input = session.input := rfl

/-- What an invocation ends with, without a file at a location. -/
def endedWithout (location : Location) (ended : Session × Ending) : Session × Ending :=
  (ended.1.without location, ended.2)

variable {surroundings : Surroundings} {session : Session} {directory location : Location}

theorem markdownFrom_without {stream : Stream}
    (apart : ∀ text, stream = .file text → ¬ OnTheWay directory (Path.ofString text) location) :
    (session.without location).markdownFrom directory stream =
      ((session.markdownFrom directory stream).1.without location,
        (session.markdownFrom directory stream).2) := by
  cases stream with
  | console =>
    simp only [Session.markdownFrom, Session.readInput, Session.input_without]
    cases Text.decodeUtf8 session.input <;> rfl
  | file text =>
    simp only [Session.markdownFrom, Session.volume_without, Volume.read_without (apart text rfl)]
    cases session.volume.read directory (Path.ofString text) <;> rfl

theorem deliver_without {markdown : String} {stream : Stream}
    (apart : ∀ text, stream = .file text → ¬ OnTheWay directory (Path.ofString text) location) :
    (session.without location).deliver directory markdown stream =
      (session.deliver directory markdown stream).map (·.without location) := by
  cases stream with
  | console => rfl
  | file text =>
    simp only [Session.deliver, Session.volume_without, Volume.write_without (apart text rfl)]
    cases session.volume.write directory (Path.ofString text) (Text.encodeUtf8 markdown) <;> rfl

theorem failConversion_without (session : Session) (location : Location) (failure : Failure) :
    (session.without location).failConversion failure =
      endedWithout location (session.failConversion failure) := by
  unfold Session.failConversion
  cases failure.kind <;> rfl

/-- What a request uses: a path, and the location at which it starts. -/
inductive Uses (surroundings : Surroundings) (session : Session) :
    Request → Location → Path → Prop where
  | source {arguments : ConvertArguments} {text : String} {sink : Stream}
      (source : arguments.source? = some (.file text)) (sink : arguments.sink? = some sink) :
      Uses surroundings session (.convert arguments) surroundings.directory (Path.ofString text)
  | sink {arguments : ConvertArguments} {text : String} {stream : Stream}
      (source : arguments.source? = some stream) (sink : arguments.sink? = some (.file text)) :
      Uses surroundings session (.convert arguments) surroundings.directory (Path.ofString text)
  | configuration {arguments : GenerateArguments} {path : Path}
      (expanded : Config.expandHome surroundings (Path.ofString arguments.config) = .ok path) :
      Uses surroundings session (.generate arguments) surroundings.directory path
  | configurationFile {arguments : GenerateArguments} {file : Location}
      (located : Config.locate surroundings session.volume (Path.ofString arguments.config) =
        .ok file) :
      Uses surroundings session (.generate arguments) [] (.ofLocation file)
  | input {arguments : GenerateArguments} {settings : Settings} {source : Path}
      (loaded : arguments.settings surroundings session.volume = .ok settings)
      (among : source ∈ settings.inputs) :
      Uses surroundings session (.generate arguments) surroundings.directory source
  | documentation {arguments : GenerateArguments} {settings : Settings} {documentation : Path}
      (loaded : arguments.settings surroundings session.volume = .ok settings)
      (documented : settings.documentation = some documentation) :
      Uses surroundings session (.generate arguments) surroundings.directory documentation
  | output {arguments : GenerateArguments} {settings effective : Settings}
      {documentation output : Path}
      (loaded : arguments.settings surroundings session.volume = .ok settings)
      (documented : settings.documentation = some documentation)
      (inEffect : effectiveSettings session.volume surroundings.directory documentation settings =
        .ok effective)
      (merges : effective.mergesFiles) (named : settings.output = some output) :
      Uses surroundings session (.generate arguments) surroundings.directory output

theorem convert_without {arguments : ConvertArguments}
    (apart : ∀ start path, Uses surroundings (session.without location) (.convert arguments) start
      path → ¬ OnTheWay start path location) :
    convert (session.without location) surroundings.directory arguments =
      endedWithout location (convert session surroundings.directory arguments) := by
  unfold convert
  cases from_ : arguments.source? with
  | none => rfl
  | some source =>
    cases into : arguments.sink? with
    | none => rfl
    | some sink =>
      have reads := @markdownFrom_without session surroundings.directory location source
        fun text file => apart _ _ (.source (file ▸ from_) into)
      dsimp only
      rw [reads]
      cases session.markdownFrom surroundings.directory source with
      | mk read outcome =>
        cases outcome with
        | error escape =>
          cases escape with
          | failure failure => exact failConversion_without read location failure
          | configuration | input => rfl
        | ok markdown =>
          have delivers := @deliver_without read surroundings.directory location markdown sink
            fun text file => apart _ _ (.sink from_ (file ▸ into))
          dsimp only
          rw [delivers]
          cases read.deliver surroundings.directory markdown sink with
          | error failure => exact failConversion_without read location failure
          | ok delivered => rfl

theorem locate_without {volume : Volume} {path : Path}
    (apart : ∀ expanded, Config.expandHome surroundings path = .ok expanded →
      ¬ OnTheWay surroundings.directory expanded location) :
    Config.locate surroundings (volume.without location) path =
      Config.locate surroundings volume path := by
  unfold Config.locate
  cases expands : Config.expandHome surroundings path with
  | error error => rfl
  | ok expanded =>
    simp only [bind, Except.bind, Volume.isDirectory_without (apart expanded expands)]

theorem load_without {volume : Volume} {path : Path}
    (apart : ∀ expanded, Config.expandHome surroundings path = .ok expanded →
      ¬ OnTheWay surroundings.directory expanded location)
    (apartFile : ∀ file, Config.locate surroundings (volume.without location) path = .ok file →
      ¬ OnTheWay [] (.ofLocation file) location) :
    Config.load surroundings (volume.without location) path =
      Config.load surroundings volume path := by
  rw [locate_without apart] at apartFile
  unfold Config.load
  rw [locate_without apart]
  cases located : Config.locate surroundings volume path with
  | error error => rfl
  | ok file =>
    simp only [bind, Except.bind, Volume.hasPath_without (apartFile file located),
      Volume.read_without (apartFile file located)]

/-! ## An invocation and its log file -/

/-- An invocation with a log file ends as another one does without it. It has told of a failure in more
detail, if there is one. -/
structure EndsAlikeBut (location : Location) (failure? : Option Failure)
    (plain logged : Session × Ending) : Prop where
  ending : logged.2 = plain.2
  volume : logged.1.volume.without location = plain.1.volume
  input : logged.1.input = plain.1.input
  output : logged.1.output = plain.1.output
  errors : AddsTrace failure? plain.1.errors logged.1.errors

theorem EndsAlikeBut.of_without {plain logged : Session × Ending}
    (same : plain = endedWithout location logged) : EndsAlikeBut location none plain logged := by
  subst same
  exact ⟨rfl, rfl, rfl, rfl, rfl⟩

theorem runWith_logged {file : LogFile} {settings : Settings}
    (sound : session.volume.WellFormedAt directory)
    (isFile : ∃ content, session.volume.get? file.location = some (.file content))
    (other : leadsToMarkdown file.location = false)
    (passes : PassesBy (session.volume.without file.location) directory settings file.location) :
    EndsAlikeBut file.location
      (reported? (Generation.run (Logging.journal {} (session.volume.without file.location))
        directory settings).2)
      (runWith (session.without file.location) directory {} settings)
      (runWith session directory { file := some file } settings) := by
  let journal : Journal := Logging.journal { file := some file } session.volume
  have logs : journal.LogsAt directory file.location :=
    ⟨sound, isFile, fun location ⟨_, same, place⟩ => by
      rw [← place, ← Option.some.inj same]⟩
  have unlogged : Generation.run (Logging.journal {} (session.volume.without file.location))
      directory settings =
        ((Generation.run journal directory settings).1.unlogged file.location,
          (Generation.run journal directory settings).2) :=
    Generation.run_unlogged logs other passes
  obtain ⟨told, ⟨-, records, all, plain⟩, whole⟩ :=
    Generation.exists_told_of_run journal directory settings
  obtain rfl : told.records = records := all
  have shown := addsTrace_shown plain (rfl : journal.traces = true)
    (reported? (Generation.run journal directory settings).2) (some file)
  rw [← whole] at shown
  unfold runWith
  rw [Session.volume_without, unlogged]
  dsimp only
  cases ran : Generation.run journal directory settings with
  | mk after outcome =>
    rw [ran] at shown
    have upToRun := shown.between session.errors ""
    rw [String.append_empty, String.append_empty] at upToRun
    cases outcome with
    | error failure => exact ⟨rfl, rfl, rfl, rfl, upToRun⟩
    | ok result =>
      dsimp only
      split
      next => exact ⟨rfl, rfl, rfl, rfl, upToRun⟩
      next => exact ⟨rfl, rfl, rfl, rfl, shown.between session.errors (failureText result)⟩

/-- The failure that the run of a request reports. A conversion is no run. -/
def Request.reported? (surroundings : Surroundings) (session : Session) : Request → Option Failure
  | .convert _ => none
  | .generate arguments =>
    (arguments.settings surroundings session.volume).toOption.bind fun settings =>
      Generation.reported?
        (Generation.run (Logging.journal {} session.volume) surroundings.directory settings).2

/-- A request does with a log file what it does without one. -/
theorem carryOut_logged {request : Request} {file : LogFile}
    (sound : session.volume.WellFormedAt surroundings.directory)
    (isFile : ∃ content, session.volume.get? file.location = some (.file content))
    (other : leadsToMarkdown file.location = false)
    (apart : ∀ start path, Uses surroundings (session.without file.location) request start path →
      ¬ OnTheWay start path file.location) :
    EndsAlikeBut file.location (request.reported? surroundings (session.without file.location))
      (Invocation.carryOut { request } (session.without file.location) surroundings {})
      (Invocation.carryOut { request } session surroundings { file := some file }) := by
  cases request with
  | convert arguments => exact .of_without (convert_without apart)
  | generate arguments =>
    have loads : arguments.settings surroundings (session.volume.without file.location) =
        arguments.settings surroundings session.volume :=
      congrArg (Except.map arguments.override) (load_without
        (fun expanded expands => apart _ _ (.configuration expands))
        fun file located => apart _ _ (.configurationFile located))
    unfold Invocation.carryOut generate Request.reported?
    dsimp only
    rw [Session.volume_without, loads]
    cases loaded : arguments.settings surroundings session.volume with
    | error error => cases error <;> exact ⟨rfl, rfl, rfl, rfl, rfl⟩
    | ok settings =>
      have inSession : arguments.settings surroundings (session.without file.location).volume =
          .ok settings := loads.trans loaded
      exact runWith_logged sound isFile other
        { inputs := fun source among => apart _ _ (.input inSession among)
          documentation := fun documentation documented =>
            apart _ _ (.documentation inSession documented)
          output := fun documentation effective output documented inEffect merges named =>
            apart _ _ (.output inSession documented inEffect merges named) }

/-- Where nothing is yet, opening a log makes an empty file and nothing else. -/
theorem openLog_of_absent {volume opened : Volume} {path : Path}
    (sound : volume.WellFormedAt directory)
    (opens : openLog volume (path.absolute directory) = .ok opened)
    (absent : volume.get? (path.resolve directory) = none) :
    opened.WellFormedAt directory ∧
      opened.get? (path.resolve directory) = some (.file []) ∧
      opened.without (path.resolve directory) = volume := by
  have place : (path.absolute directory).resolve [] = path.resolve directory :=
    Path.resolve_absolute (sound.wellFormed.not_mem_of_get? sound.inside) path []
  have notFile : ¬ volume.isFile [] (path.absolute directory) := by
    intro isFile
    obtain ⟨content, found⟩ := Volume.isFile_eq_true_iff.mp isFile
    have there := Volume.get?_of_status found
    rw [place, absent] at there
    cases there
  rw [openLog, if_neg notFile] at opens
  obtain ⟨evolves, isFile⟩ := Volume.evolves_of_write ⟨sound.wellFormed, rfl⟩ opens
  have puts := (Volume.put_of_write opens).1
  rw [place] at isFile puts
  refine ⟨evolves.wellFormedAt sound, isFile, ?_⟩
  rw [puts, Volume.without_put_self, Volume.without_of_absent volume absent]

theorem openLogging_of_openLog {volume opened : Volume} {text : String} (notEmpty : text ≠ "")
    (opens : openLog volume ((Path.ofString text).absolute directory) = .ok opened)
    (request : Request) (time : String) :
    Invocation.openLogging { logFile := some text, request } directory time volume =
      .ok ({ file := some ⟨(Path.ofString text).resolve directory, time⟩ }, opened) := by
  unfold Invocation.openLogging
  split
  next none => cases none
  next empty => exact absurd (Option.some.inj empty) notEmpty
  next named =>
    obtain rfl := Option.some.inj named
    simp only [bind, Except.bind, opens, Path.parts_absolute]
    rfl

/-- The second arguments say what the first ones say, and that there is a log file; neither ask for
records of every level. -/
structure AddsLogFile (text : String) (arguments logged : List String) : Prop where
  quiet : ∀ invocation, Invocation.ofArguments arguments = .ok invocation →
    invocation.verbose = false ∧ invocation.logFile = none
  added : Invocation.ofArguments logged =
    (Invocation.ofArguments arguments).map fun invocation => { invocation with logFile := some text }

/-- An option of the log file before all other arguments adds a log file. -/
theorem addsLogFile_leading {text : String} {arguments : List String}
    (absent : ∀ outer, Scope.program.read arguments = .ok outer → outer.has .logFile = false)
    (quiet : ∀ invocation, Invocation.ofArguments arguments = .ok invocation →
      invocation.verbose = false ∧ invocation.logFile = none) :
    AddsLogFile text arguments (logFileArgument text :: arguments) where
  quiet := quiet
  added := ofArguments_logFileArgument absent fun invocation accepted => (quiet invocation accepted).2

/-- The failure that the run of an invocation reports, if there is a run. -/
def reported? (surroundings : Surroundings) (session : Session) (arguments : List String) :
    Option Failure :=
  (Invocation.ofArguments arguments).toOption.bind fun invocation =>
    invocation.request.reported? surroundings session

/-- **A log file adds a trace to the console.** An invocation with a new log file, which nothing that it
uses passes, ends as it does without one. It tells the same, up to a trace after the line of a failure
that its run reports. -/
theorem log_file_adds_only_a_trace {text time : String} {arguments logged : List String}
    {opened : Volume} (sound : session.volume.WellFormedAt surroundings.directory)
    (adds : AddsLogFile text arguments logged)
    (opens : openLog session.volume ((Path.ofString text).absolute surroundings.directory) =
      .ok opened)
    (absent : session.volume.get? ((Path.ofString text).resolve surroundings.directory) = none)
    (other : leadsToMarkdown ((Path.ofString text).resolve surroundings.directory) = false)
    (apart : ∀ invocation, Invocation.ofArguments arguments = .ok invocation →
      ∀ start path, Uses surroundings session invocation.request start path →
        ¬ OnTheWay start path ((Path.ofString text).resolve surroundings.directory)) :
    EndsAlikeBut ((Path.ofString text).resolve surroundings.directory)
      (reported? surroundings session arguments)
      (invoke surroundings time session arguments) (invoke surroundings time session logged) := by
  obtain ⟨soundLater, isFile, without⟩ := openLog_of_absent sound opens absent
  unfold invoke reported?
  rw [adds.added]
  cases accepted : Invocation.ofArguments arguments with
  | error refusal =>
    have kept := Volume.without_of_absent session.volume absent
    cases stop : refusal.stop <;>
      simp only [Except.map, Session.refuse, stop] <;> exact ⟨rfl, kept, rfl, rfl, rfl⟩
  | ok invocation =>
    obtain ⟨verbose, logFile, request⟩ := invocation
    obtain ⟨rfl, rfl⟩ : verbose = false ∧ logFile = none := adds.quiet _ accepted
    have notEmpty : text ≠ "" := by
      rintro rfl
      -- The path of no names leads to the working directory, which is there.
      rw [show (Path.ofString "").resolve surroundings.directory = surroundings.directory from rfl,
        sound.inside] at absent
      cases absent
    let file : LogFile := ⟨(Path.ofString text).resolve surroundings.directory, time⟩
    have started : Session.without { session with volume := opened } file.location = session := by
      rw [Session.without, without]
    have done := @carryOut_logged surroundings { session with volume := opened } request file
      soundLater ⟨[], isFile⟩ other (by rw [started]; exact apart _ accepted)
    rw [started] at done
    dsimp only [Except.map]
    rw [openLogging_of_openLog notEmpty opens]
    exact done

/-! ### A run that fails -/

/-- A session with a file that is no document. -/
def brokenSession : Session where
  volume := ⟨[(["api.xml"], .file (Text.encodeUtf8 "<"))]⟩

def brokenArguments : List String := ["generate", "api.xml", "-d", "docs"]

def brokenRequest : GenerateArguments :=
  { inputs := ["api.xml"], documentation := some "docs" }

def brokenSettings : Settings where
  inputs := [⟨.relative, ["api.xml"]⟩]
  documentation := some ⟨.relative, ["docs"]⟩

/-- How the arguments and the paths of the session are read, and how its runs end. -/
structure BrokenRuns : Prop where
  accepted : (Invocation.ofArguments brokenArguments).toOption =
    some { request := .generate brokenRequest }
  outside : (Scope.program.read brokenArguments).toOption.map (·.has .logFile) = some false
  loaded : (brokenRequest.settings ⟨[], []⟩ brokenSession.volume).toOption = some brokenSettings
  expanded : (Config.expandHome ⟨[], []⟩ (Path.ofString brokenRequest.config)).toOption =
    some ⟨.relative, []⟩
  located : (Config.locate ⟨[], []⟩ brokenSession.volume (Path.ofString brokenRequest.config)).toOption =
    some [".xmldoc2md.yml"]
  log : Path.ofString "run.log" = ⟨.relative, ["run.log"]⟩
  notMarkdown : leadsToMarkdown ["run.log"] = false
  reported : (reported? ⟨[], []⟩ brokenSession brokenArguments).isSome
  told : (invoke ⟨[], []⟩ "now" brokenSession (logFileArgument "run.log" :: brokenArguments)).1.errors ≠
    (invoke ⟨[], []⟩ "now" brokenSession brokenArguments).1.errors

theorem brokenRuns : BrokenRuns := by
  constructor <;> decide +kernel

namespace BrokenRuns

theorem eq_of_accepted {invocation : Invocation}
    (accepted : Invocation.ofArguments brokenArguments = .ok invocation) :
    invocation = { request := .generate brokenRequest } := by
  have same := brokenRuns.accepted
  rw [accepted] at same
  exact Option.some.inj same

theorem eq_of_loaded {settings : Settings}
    (loaded : brokenRequest.settings ⟨[], []⟩ brokenSession.volume = .ok settings) :
    settings = brokenSettings := by
  have same := brokenRuns.loaded
  rw [loaded] at same
  exact Option.some.inj same

theorem addsLogFile :
    AddsLogFile "run.log" brokenArguments (logFileArgument "run.log" :: brokenArguments) := by
  refine addsLogFile_leading (fun outer read => ?_) fun invocation accepted => ?_
  · have unnamed := brokenRuns.outside
    rw [read] at unnamed
    exact Option.some.inj unnamed
  · obtain rfl := eq_of_accepted accepted
    exact ⟨rfl, rfl⟩

theorem apart {start : Location} {path : Path}
    (uses : Uses ⟨[], []⟩ brokenSession (.generate brokenRequest) start path) :
    ¬ OnTheWay start path ["run.log"] := by
  cases uses with
  | configuration expanded =>
    have same := brokenRuns.expanded
    rw [expanded] at same
    obtain rfl := Option.some.inj same
    decide
  | configurationFile located =>
    have same := brokenRuns.located
    rw [located] at same
    obtain rfl := Option.some.inj same
    decide
  | input loaded among =>
    obtain rfl := eq_of_loaded loaded
    obtain rfl := List.mem_singleton.mp among
    decide
  | documentation loaded documented =>
    obtain rfl := eq_of_loaded loaded
    obtain rfl := Option.some.inj documented
    decide
  | output loaded documented inEffect merges named =>
    obtain rfl := eq_of_loaded loaded
    cases named

end BrokenRuns

theorem broken_run_is_traced :
    ∃ failure, reported? ⟨[], []⟩ brokenSession brokenArguments = some failure ∧
      EndsAlikeBut ["run.log"] (some failure)
        (invoke ⟨[], []⟩ "now" brokenSession brokenArguments)
        (invoke ⟨[], []⟩ "now" brokenSession (logFileArgument "run.log" :: brokenArguments)) := by
  have sound : brokenSession.volume.WellFormedAt [] := ⟨⟨by decide, by decide, by decide⟩, rfl⟩
  have place : (Path.ofString "run.log").resolve [] = ["run.log"] := by
    rw [brokenRuns.log]
    rfl
  have opens : openLog brokenSession.volume ((Path.ofString "run.log").absolute []) =
      .ok (brokenSession.volume.put ["run.log"] (.file [])) := by
    rw [brokenRuns.log]
    rfl
  obtain ⟨failure, reports⟩ := Option.isSome_iff_exists.mp brokenRuns.reported
  have ends := @log_file_adds_only_a_trace ⟨[], []⟩ brokenSession "run.log" "now" brokenArguments
    (logFileArgument "run.log" :: brokenArguments) _ sound BrokenRuns.addsLogFile opens
    (by rw [place]; rfl) (by rw [place]; exact brokenRuns.notMarkdown) (by
      intro invocation accepted start path uses
      obtain rfl := BrokenRuns.eq_of_accepted accepted
      rw [place]
      exact BrokenRuns.apart uses)
  rw [reports, place] at ends
  exact ⟨failure, reports, ends⟩

/-- Nothing that the run uses passes the new log file, and still it can be told on the console whether
there is one. -/
theorem log_file_shows_on_console :
    brokenSession.volume.get? ["run.log"] = none ∧
      AddsLogFile "run.log" brokenArguments (logFileArgument "run.log" :: brokenArguments) ∧
      (∀ start path, Uses ⟨[], []⟩ brokenSession (.generate brokenRequest) start path →
        ¬ OnTheWay start path ["run.log"]) ∧
      (invoke ⟨[], []⟩ "now" brokenSession (logFileArgument "run.log" :: brokenArguments)).1.errors ≠
        (invoke ⟨[], []⟩ "now" brokenSession brokenArguments).1.errors :=
  ⟨rfl, BrokenRuns.addsLogFile, fun _ _ => BrokenRuns.apart, brokenRuns.told⟩

end MemberDocs.CommandLine
