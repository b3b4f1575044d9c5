import MemberDocs.Proofs.CommandLine.Handlers

/-! # Invocations in one process

Invocations that follow each other share a session and a logger (`Process`). Whatever has been before,
the records of an invocation are written by its own handlers: by the one of its console each record
that it shows, by the one of its log file each record, and by no handler of an earlier invocation. A
file that no invocation writes over grows by what is added to it
(`each_invocation_keeps_its_own_log`), but an invocation can be told to write over a log file
(`log_file_is_written_over`).
-/

namespace MemberDocs.CommandLine

open Config (Surroundings)
open Generation (Failure Journal LogFile LogRecord MayWrite addedTo addedTo_nil)

variable {surroundings : Surroundings} {session : Session} {logging : Logging}
  {directory : Location}

/-! ## Requests -/

/-- The records that a request tells. Only a run tells any. -/
def Request.told (surroundings : Surroundings) (session : Session) (logging : Logging) :
    Request → List LogRecord
  | .convert _ => []
  | .generate arguments =>
    match arguments.settings surroundings session.volume with
    | .error _ => []
    | .ok settings =>
      (Generation.run (logging.journal session.volume) surroundings.directory settings).1.records

/-- Where a request may write what it is asked for: the file that a conversion writes to, or the files
that a run may write. -/
inductive Request.Writes (surroundings : Surroundings) (session : Session) (logging : Logging) :
    Request → Location → Prop where
  | sink {arguments : ConvertArguments} {text : String}
      (sink : arguments.sink? = some (.file text)) :
      Writes surroundings session logging (.convert arguments)
        ((Path.ofString text).resolve surroundings.directory)
  | run {arguments : GenerateArguments} {settings : Generation.Settings} {location : Location}
      (loaded : arguments.settings surroundings session.volume = .ok settings)
      (writes : MayWrite (logging.journal session.volume) surroundings.directory settings location) :
      Writes surroundings session logging (.generate arguments) location

/-- A request has ended that has told some records. -/
structure Tells (directory : Location) (logging : Logging) (written : Location → Prop)
    (told : List LogRecord) (before : Session) (ended : Session × Ending) : Prop where
  sound : ended.1.volume.WellFormedAt directory
  /-- The console shows the records, and then a message if the request is reported to have failed. -/
  shown : ∃ message, ended.1.errors = before.errors ++ logging.shown told ++ message ∧
    (ended.2.status? ≠ some 1 → message = "")
  /-- A file that is not written has the lines of the records added to it if it is the log file. -/
  added : ∀ location content, ¬ written location →
    before.volume.get? location = some (.file content) →
      ended.1.volume.get? location = some (.file (content ++ addedTo logging.file location told))

/-- A request that tells no records. -/
theorem Tells.of_untold {written : Location → Prop} {ended : Session × Ending}
    (sound : ended.1.volume.WellFormedAt directory)
    (shown : ∃ message, ended.1.errors = session.errors ++ message ∧
      (ended.2.status? ≠ some 1 → message = ""))
    (kept : ∀ location content, ¬ written location →
      session.volume.get? location = some (.file content) →
        ended.1.volume.get? location = some (.file content)) :
    Tells directory logging written [] session ended where
  sound := sound
  shown := by
    obtain ⟨message, errors, only⟩ := shown
    exact ⟨message, by rw [errors, Logging.shown, Logger.shown_nil, String.append_empty], only⟩
  added location content apart there := by
    rw [addedTo_nil, List.append_nil]
    exact kept location content apart there

theorem failConversion_spec (session : Session) (failure : Failure) :
    (session.failConversion failure).1.volume = session.volume ∧
      ∃ message, (session.failConversion failure).1.errors = session.errors ++ message ∧
        ((session.failConversion failure).2.status? ≠ some 1 → message = "") := by
  unfold Session.failConversion
  cases failure.kind with
  | content | file => exact ⟨rfl, _, rfl, fun other => absurd rfl other⟩
  | text | other => exact ⟨rfl, "", (String.append_empty).symm, fun _ => rfl⟩

theorem markdownFrom_spec (session : Session) (directory : Location) (stream : Stream) :
    (session.markdownFrom directory stream).1.volume = session.volume ∧
      (session.markdownFrom directory stream).1.errors = session.errors := by
  cases stream with
  | console =>
    unfold Session.markdownFrom Session.readInput
    cases Text.decodeUtf8 session.input <;> exact ⟨rfl, rfl⟩
  | file text =>
    unfold Session.markdownFrom
    dsimp only
    cases session.volume.read directory (Path.ofString text) <;> exact ⟨rfl, rfl⟩

theorem deliver_spec {markdown : String} {stream : Stream} {delivered : Session}
    (sound : session.volume.WellFormedAt directory)
    (done : session.deliver directory markdown stream = .ok delivered) :
    delivered.volume.WellFormedAt directory ∧ delivered.errors = session.errors ∧
      ∀ location content,
        (∀ text, stream = .file text → location ≠ (Path.ofString text).resolve directory) →
          session.volume.get? location = some (.file content) →
            delivered.volume.get? location = some (.file content) := by
  cases stream with
  | console =>
    obtain rfl := Except.ok.inj done
    exact ⟨sound, rfl, fun _ _ _ there => there⟩
  | file text =>
    unfold Session.deliver at done
    dsimp only at done
    split at done
    next => cases done
    next volume written =>
      obtain rfl := Except.ok.inj done
      obtain ⟨evolves, -⟩ := Volume.evolves_of_write sound written
      exact ⟨evolves.wellFormedAt sound, rfl, fun location content apart there =>
        evolves.get?_of_apart (apart text rfl) there⟩

theorem tells_convert (sound : session.volume.WellFormedAt surroundings.directory)
    (arguments : ConvertArguments) :
    Tells surroundings.directory logging
      (Request.Writes surroundings session logging (.convert arguments)) [] session
      (convert session surroundings.directory arguments) := by
  unfold convert
  split
  next source sink from_ into =>
    obtain ⟨volume, errors⟩ := markdownFrom_spec session surroundings.directory source
    cases read : session.markdownFrom surroundings.directory source with
    | mk later outcome =>
      rw [read] at volume errors
      dsimp only at volume errors ⊢
      -- A conversion that fails leaves every file as it was.
      have fails (failure : Failure) : Tells surroundings.directory logging
          (Request.Writes surroundings session logging (.convert arguments)) [] session
          (later.failConversion failure) := by
        obtain ⟨same, message, told, only⟩ := failConversion_spec later failure
        refine .of_untold (same ▸ volume ▸ sound) ⟨message, errors ▸ told, only⟩ ?_
        intro location content _ there
        rw [same, volume, there]
      cases outcome with
      | error escape =>
        cases escape with
        | failure failure => exact fails failure
        | configuration | input =>
          exact .of_untold (volume ▸ sound) ⟨"", by rw [errors, String.append_empty], fun _ => rfl⟩
            fun location content _ there => by rw [volume, there]
      | ok markdown =>
        dsimp only
        split
        next failure _ => exact fails failure
        next delivered done =>
          obtain ⟨soundLater, silent, kept⟩ := deliver_spec (volume ▸ sound) done
          refine .of_untold soundLater
            ⟨"", by rw [silent, errors, String.append_empty], fun _ => rfl⟩ ?_
          intro location content apart there
          refine kept location content (fun text file here => apart ?_) (volume ▸ there)
          subst file here
          exact .sink into
  next => exact .of_untold sound ⟨_, rfl, fun other => absurd rfl other⟩ fun _ _ _ there => there

theorem tells_runWith (sound : session.volume.WellFormedAt directory)
    (settings : Generation.Settings) :
    Tells directory logging
      (MayWrite (logging.journal session.volume) directory settings)
      (Generation.run (logging.journal session.volume) directory settings).1.records session
      (runWith session directory logging settings) := by
  have steps := @Generation.steps_run (logging.journal session.volume) directory settings sound
  obtain ⟨-, told, listed, grows⟩ := steps.exists_told
  obtain rfl : _ = told := listed
  have soundLater := steps.wellFormedAt sound
  unfold runWith
  cases ran : Generation.run (logging.journal session.volume) directory settings with
  | mk final outcome =>
    rw [ran] at soundLater grows
    cases outcome with
    | error failure => exact ⟨soundLater, ⟨"", (String.append_empty).symm, fun _ => rfl⟩, grows⟩
    | ok result =>
      dsimp only
      split
      next => exact ⟨soundLater, ⟨"", (String.append_empty).symm, fun _ => rfl⟩, grows⟩
      next => exact ⟨soundLater, ⟨_, rfl, fun other => absurd rfl other⟩, grows⟩

theorem tells_carryOut (sound : session.volume.WellFormedAt surroundings.directory)
    (invocation : Invocation) :
    Tells surroundings.directory logging
      (invocation.request.Writes surroundings session logging)
      (invocation.request.told surroundings session logging) session
      (invocation.carryOut session surroundings logging) := by
  obtain ⟨verbose, logFile, request⟩ := invocation
  cases request with
  | convert arguments => exact tells_convert sound arguments
  | generate arguments =>
    unfold Invocation.carryOut generate Request.told
    dsimp only
    cases loaded : arguments.settings surroundings session.volume with
    | error error =>
      dsimp only
      split
      next => exact .of_untold sound ⟨_, rfl, fun other => absurd rfl other⟩ fun _ _ _ => id
      next => exact .of_untold sound ⟨_, rfl, fun other => absurd rfl other⟩ fun _ _ _ => id
      next => exact .of_untold sound ⟨"", (String.append_empty).symm, fun _ => rfl⟩ fun _ _ _ => id
    | ok settings =>
      obtain ⟨soundLater, shown, added⟩ := @tells_runWith session logging _ sound settings
      exact ⟨soundLater, shown, fun location content apart =>
        added location content fun writes => apart (.run loaded writes)⟩

/-! ## The log of an invocation -/

theorem openLog_spec {volume opened : Volume} {path : Path}
    (sound : volume.WellFormedAt directory)
    (opens : openLog volume (path.absolute directory) = .ok opened) :
    opened.WellFormedAt directory ∧
      (∀ location content, volume.get? location = some (.file content) →
        opened.get? location = some (.file content)) ∧
      ∃ content, opened.get? (path.resolve directory) = some (.file content) := by
  have place : (path.absolute directory).resolve [] = path.resolve directory :=
    Path.resolve_absolute (sound.wellFormed.not_mem_of_get? sound.inside) path []
  unfold openLog at opens
  split at opens
  next isFile =>
    obtain rfl := Except.ok.inj opens
    obtain ⟨content, found⟩ := Volume.isFile_eq_true_iff.mp isFile
    exact ⟨sound, fun _ _ => id, content, place ▸ Volume.get?_of_status found⟩
  next notFile =>
    obtain ⟨noNull, -⟩ := Volume.write_eq_ok_iff.mp opens
    obtain ⟨evolves, isFile⟩ := Volume.evolves_of_write ⟨sound.wellFormed, rfl⟩ opens
    refine ⟨evolves.wellFormedAt sound, fun location content there => ?_, [], place ▸ isFile⟩
    refine evolves.get?_of_apart (fun here => notFile ?_) there
    -- A file that is there is found from the top directory, so it would not have been made.
    rw [here, place] at there
    have located : volume.locate [] (path.absolute directory) =
        .ok ((path.absolute directory).resolve []) := by
      have down := @Volume.WellFormed.follow_of_get? volume sound.wellFormed [] _ _ there
      have start : Volume.startOf [] (path.absolute directory) = [] := by
        unfold Volume.startOf
        split <;> rfl
      rw [Volume.locate, start, Path.parts_absolute, place]
      exact down
    exact Volume.isFile_eq_true_iff.mpr
      ⟨content, Volume.status_eq_some_iff.mpr ⟨noNull, located, place ▸ there⟩⟩

/-- An invocation has opened its log. -/
structure LogOpened (directory : Location) (invocation : Invocation) (volume : Volume)
    (logging : Logging) (opened : Volume) : Prop where
  verbose : logging.verbose = invocation.verbose
  named : logging.file.isSome = invocation.namesLog
  sound : opened.WellFormedAt directory
  kept : ∀ location content, volume.get? location = some (.file content) →
    opened.get? location = some (.file content)
  there : ∀ file ∈ logging.file, ∃ content, opened.get? file.location = some (.file content)

theorem logOpened_of_openLogging {invocation : Invocation} {time : String}
    {volume opened : Volume} (sound : volume.WellFormedAt directory)
    (opens : invocation.openLogging directory time volume = .ok (logging, opened)) :
    LogOpened directory invocation volume logging opened := by
  obtain ⟨verbose, logFile, request⟩ := invocation
  have unnamed (none : logFile = none ∨ logFile = some "") :
      LogOpened directory ⟨verbose, logFile, request⟩ volume { verbose } volume := by
    rcases none with rfl | rfl <;>
      exact ⟨rfl, rfl, sound, fun _ _ => id, fun file listed => by cases listed⟩
  unfold Invocation.openLogging at opens
  dsimp only at opens
  split at opens
  next =>
    obtain ⟨rfl, rfl⟩ := Prod.mk.inj (Except.ok.inj opens)
    exact unnamed (Or.inl rfl)
  next =>
    obtain ⟨rfl, rfl⟩ := Prod.mk.inj (Except.ok.inj opens)
    exact unnamed (Or.inr rfl)
  next text notEmpty =>
    simp only [bind, Except.bind] at opens
    split at opens
    next => cases opens
    next later opensLog =>
      obtain ⟨rfl, rfl⟩ := Prod.mk.inj (Except.ok.inj opens)
      obtain ⟨soundLater, kept, isFile⟩ := openLog_spec sound opensLog
      refine ⟨rfl, ?_, soundLater, kept, fun file listed => ?_⟩
      · unfold Invocation.namesLog
        dsimp only
        split
        next none => cases none
        next empty => exact absurd (Option.some.inj empty) notEmpty
        next => rfl
      · obtain rfl := Option.some.inj listed
        rwa [Path.parts_absolute]

/-! ## Processes -/

namespace Process

def run (surroundings : Surroundings) (process : Process) (calls : List Call) : Process :=
  calls.foldl (invoke surroundings) process

/-- Where an invocation may write what it is asked for. -/
def Writes (surroundings : Surroundings) (process : Process) (call : Call) (location : Location) :
    Prop :=
  ∃ invocation logging opened, Invocation.ofArguments call.arguments = .ok invocation ∧
    invocation.openLogging surroundings.directory call.time process.session.volume =
      .ok (logging, opened) ∧
    invocation.request.Writes surroundings { process.session with volume := opened } logging location

variable {process : Process} {call : Call} {invocation : Invocation} {opened : Volume}

theorem session_invoke (surroundings : Surroundings) (process : Process) (call : Call) :
    (process.invoke surroundings call).session =
      (CommandLine.invoke surroundings call.time process.session call.arguments).1 :=
  congrArg Prod.fst (process.carryOut_eq_invoke surroundings call)

theorem invoke_eq_carryOut (accepted : Invocation.ofArguments call.arguments = .ok invocation)
    (opens : invocation.openLogging surroundings.directory call.time process.session.volume =
      .ok (logging, opened)) :
    CommandLine.invoke surroundings call.time process.session call.arguments =
      invocation.carryOut { process.session with volume := opened } surroundings logging := by
  simp only [CommandLine.invoke, accepted, opens]

theorem writers_invoke (accepted : Invocation.ofArguments call.arguments = .ok invocation)
    (opens : invocation.openLogging surroundings.directory call.time process.session.volume =
      .ok (logging, opened)) (log : LogOpened directory invocation process.session.volume logging opened)
    (level : ℕ) :
    (process.invoke surroundings call).logger.writers level =
      Logger.own process.count logging.verbose logging.file level := by
  have known : logging.file.isSome → invocation.namesLog := fun isFile => log.named ▸ isFile
  simp only [invoke, leave, accepted, opens, Except.toOption, Option.bind_some, ← log.verbose]
  exact Logger.writers_configure known process.logger process.count logging.verbose level

/-- An invocation leaves a file system, and a file that it does not write over grows at most. -/
theorem grows_invoke (sound : process.session.volume.WellFormedAt surroundings.directory)
    (call : Call) :
    (process.invoke surroundings call).session.volume.WellFormedAt surroundings.directory ∧
      ∀ location content, ¬ process.Writes surroundings call location →
        process.session.volume.get? location = some (.file content) →
          ∃ added, (process.invoke surroundings call).session.volume.get? location =
            some (.file (content ++ added)) := by
  have unchanged (same : (process.invoke surroundings call).session.volume =
      process.session.volume) :
      (process.invoke surroundings call).session.volume.WellFormedAt surroundings.directory ∧
        ∀ location content, ¬ process.Writes surroundings call location →
          process.session.volume.get? location = some (.file content) →
            ∃ added, (process.invoke surroundings call).session.volume.get? location =
              some (.file (content ++ added)) :=
    ⟨same ▸ sound, fun location content _ there => ⟨[], by rw [same, there, List.append_nil]⟩⟩
  cases accepted : Invocation.ofArguments call.arguments with
  | error refusal =>
    refine unchanged ?_
    rw [session_invoke]
    cases stop : refusal.stop <;>
      simp only [CommandLine.invoke, accepted, Session.refuse, stop] <;> rfl
  | ok invocation =>
    cases opens : invocation.openLogging surroundings.directory call.time
        process.session.volume with
    | error fault =>
      exact unchanged (by rw [session_invoke]; simp only [CommandLine.invoke, accepted, opens])
    | ok log =>
      obtain ⟨logging, opened⟩ := log
      have log := logOpened_of_openLogging sound opens
      have tells := @tells_carryOut surroundings { process.session with volume := opened } logging
        log.sound invocation
      rw [session_invoke, invoke_eq_carryOut accepted opens]
      refine ⟨tells.sound, fun location content apart there => ?_⟩
      exact ⟨_, tells.added location content
        (fun writes => apart ⟨invocation, logging, opened, accepted, opens, writes⟩)
        (log.kept location content there)⟩

/-- Invocations that stop at the first one that does not return leave the process as it is after as many
of them. -/
theorem exists_run_of_invokeAll (surroundings : Surroundings) (time : String) (process : Process)
    (arguments : List (List String)) :
    ∃ done, done <+: arguments ∧
      (process.invokeAll surroundings time arguments).1 =
        process.run surroundings (done.map (Call.mk time)) := by
  induction arguments generalizing process with
  | nil => exact ⟨[], List.prefix_rfl, rfl⟩
  | cons first others ih =>
    rw [invokeAll]
    dsimp only
    split
    next =>
      obtain ⟨done, part, same⟩ := ih (process.invoke surroundings ⟨time, first⟩)
      exact ⟨first :: done, (List.prefix_cons_inj first).mpr part, same⟩
    next => exact ⟨[first], ⟨others, rfl⟩, rfl⟩

theorem run_concat (surroundings : Surroundings) (process : Process) (calls : List Call)
    (call : Call) :
    process.run surroundings (calls ++ [call]) =
      (process.run surroundings calls).invoke surroundings call :=
  List.foldl_concat _ _ _ _

/-- Any number of invocations leave a file system, and a file that none of them writes over grows at
most. -/
theorem grows_run (sound : process.session.volume.WellFormedAt surroundings.directory)
    (calls : List Call) :
    (process.run surroundings calls).session.volume.WellFormedAt surroundings.directory ∧
      ∀ location content,
        (∀ before call after, calls = before ++ call :: after →
          ¬ (process.run surroundings before).Writes surroundings call location) →
        process.session.volume.get? location = some (.file content) →
          ∃ added, (process.run surroundings calls).session.volume.get? location =
            some (.file (content ++ added)) := by
  induction calls using List.reverseRecOn with
  | nil =>
    exact ⟨sound, fun location content _ there => ⟨[], by rw [List.append_nil]; exact there⟩⟩
  | append_singleton calls call ih =>
    obtain ⟨soundLater, grows⟩ := ih
    obtain ⟨soundLast, growsLast⟩ := grows_invoke soundLater call
    rw [run_concat]
    refine ⟨soundLast, fun location content apart there => ?_⟩
    obtain ⟨added, held⟩ := grows location content
      (fun before other after split => apart before other (after ++ [call]) (by simp [split])) there
    obtain ⟨more, heldLast⟩ := growsLast location _ (apart calls call [] rfl) held
    exact ⟨added ++ more, by rw [heldLast, List.append_assoc]⟩

end Process

/-- Let invocations follow each other in one process, with any handlers that there have been before.
A file that none of them writes over grows by what is added to it, and by nothing else. The next
invocation that comes to its command has a record written by its own handlers alone: once on the
console if the record matters enough to be shown, and once in the log file if there is one. The
records that it tells are shown after what has been shown before, and their lines are added to the
log file and to no other file, an earlier log file or not. -/
theorem each_invocation_keeps_its_own_log {start : Process}
    (sound : start.session.volume.WellFormedAt surroundings.directory) (calls : List Call) :
    (∀ location content,
      (∀ before call after, calls = before ++ call :: after →
        ¬ (start.run surroundings before).Writes surroundings call location) →
      start.session.volume.get? location = some (.file content) →
        ∃ added, (start.run surroundings calls).session.volume.get? location =
          some (.file (content ++ added))) ∧
    ∀ call invocation logging opened, Invocation.ofArguments call.arguments = .ok invocation →
      invocation.openLogging surroundings.directory call.time
        (start.run surroundings calls).session.volume = .ok (logging, opened) →
      let before := start.run surroundings calls
      let after := before.invoke surroundings call
      let told := invocation.request.told surroundings
        { before.session with volume := opened } logging
      (∀ level, after.logger.writers level =
        (if (if invocation.verbose then 10 else 20) ≤ level then
          [⟨before.count, if invocation.verbose then 10 else 20, .console⟩] else []) ++
        if 10 ≤ level then logging.file.toList.map fun file => ⟨before.count, 10, .file file⟩
        else []) ∧
      (after.logger.shown told = logging.shown told ∧
        ∀ location, after.logger.added location told = addedTo logging.file location told) ∧
      (∃ message, after.session.errors = before.session.errors ++ after.logger.shown told ++ message ∧
        ((CommandLine.invoke surroundings call.time before.session call.arguments).2.status? ≠
          some 1 → message = "")) ∧
      (∀ location content, before.session.volume.get? location = some (.file content) →
        opened.get? location = some (.file content)) ∧
      (∀ file ∈ logging.file, ∃ content, opened.get? file.location = some (.file content)) ∧
      ∀ location content, ¬ before.Writes surroundings call location →
        opened.get? location = some (.file content) →
          after.session.volume.get? location =
            some (.file (content ++ after.logger.added location told)) := by
  obtain ⟨soundLater, grows⟩ := Process.grows_run sound calls
  refine ⟨grows, ?_⟩
  intro call invocation logging opened accepted opens before after told
  have log := logOpened_of_openLogging soundLater opens
  have writers := Process.writers_invoke accepted opens log
  have tells := @tells_carryOut surroundings { before.session with volume := opened } logging
    log.sound invocation
  obtain ⟨message, errors, only⟩ := tells.shown
  have shown : after.logger.shown told = logging.shown told := by
    rw [Logger.shown_of_own writers, Logging.shown, logger_of_openLogging opens,
      Logger.shown_of_own (Logger.writers_configure id {} 0 logging.verbose)]
  have carriedOut := Process.invoke_eq_carryOut accepted opens
  have left : after.session =
      (invocation.carryOut { before.session with volume := opened } surroundings logging).1 :=
    (Process.session_invoke ..).trans (congrArg Prod.fst carriedOut)
  refine ⟨fun level => ?_, ⟨shown, fun location => Logger.added_of_own writers location told⟩,
    ⟨message, ?_, fun status => only ?_⟩, log.kept, log.there, ?_⟩
  · rw [writers, Logger.own, log.verbose]
    cases invocation.verbose <;> rfl
  · rw [shown, left]
    exact errors
  · rw [← carriedOut]
    exact status
  · intro location content apart there
    rw [Logger.added_of_own writers, left]
    exact tells.added location content
      (fun writes => apart ⟨invocation, logging, opened, accepted, opens, writes⟩) there

/-! ### A process -/

def heldRecords : String := "morning INFO xmldoc2md.orchestrator: Generated docs/api.md from api.xml\n"

/-- A process with one document, and with a log file that has been written to. -/
def loggedProcess : Process where
  session := { volume := ⟨[(["api.xml"], .file (Text.encodeUtf8 "<c>1</c>")),
    (["run.log"], .file (Text.encodeUtf8 heldRecords))]⟩ }
  logger := {}

/-- A conversion with a log file. -/
def loggedCall : Call :=
  ⟨"noon", ["--log-file=run.log", "convert", "-i", "api.xml", "-o", "api.md"]⟩

/-- A conversion that tells everything on the console, and has no log file. -/
def verboseCall : Call := ⟨"late", ["-v", "convert", "-i", "api.xml", "-o", "late.md"]⟩

def verboseConversion : ConvertArguments :=
  { inputFile := some "api.xml", outputFile := some "late.md" }

theorem conversion_leaves_first_log :
    let before := loggedProcess.run ⟨[], []⟩ [loggedCall]
    let after := before.invoke ⟨[], []⟩ verboseCall
    after.logger.writers 10 = [⟨1, 10, .console⟩] ∧
      after.session.volume.get? ["run.log"] = some (.file (Text.encodeUtf8 heldRecords)) := by
  have sound : loggedProcess.session.volume.WellFormedAt [] :=
    ⟨⟨by decide, by decide, by decide⟩, rfl⟩
  have accepted : Invocation.ofArguments verboseCall.arguments =
      .ok ⟨true, none, .convert verboseConversion⟩ :=
    toOption_eq_some_iff.mp (by decide +kernel)
  have counted : (loggedProcess.run ⟨[], []⟩ [loggedCall]).count = 1 := rfl
  have held : (loggedProcess.run ⟨[], []⟩ [loggedCall]).session.volume.get? ["run.log"] =
      some (.file (Text.encodeUtf8 heldRecords)) := by
    decide +kernel
  have next := (@each_invocation_keeps_its_own_log ⟨[], []⟩ loggedProcess sound [loggedCall]).2
  -- From here on the first invocation is not to be evaluated again.
  generalize loggedProcess.run ⟨[], []⟩ [loggedCall] = before at counted held next ⊢
  obtain ⟨writers, -, -, -, -, added⟩ := next verboseCall _ _ _ accepted rfl
  have apart : ¬ before.Writes ⟨[], []⟩ verboseCall ["run.log"] := by
    rintro ⟨invocation, _, _, same, -, writes⟩
    obtain rfl := Except.ok.inj (accepted.symm.trans same)
    generalize here : ["run.log"] = location at writes
    cases writes with
    | sink sink =>
      obtain rfl := Stream.file.inj (Option.some.inj sink)
      exact absurd here (by decide +kernel)
  refine ⟨(writers 10).trans (by rw [counted]; rfl), ?_⟩
  have grown := added _ _ apart held
  rwa [Request.told, Logger.added, List.flatMap_nil, List.append_nil] at grown

/-- A conversion into the log file of the invocation before it. -/
def overwritingCall : Call := ⟨"late", ["convert", "-i", "api.xml", "-o", "run.log"]⟩

/-- A log file does not always grow: an invocation can be told to write its output over it. -/
theorem log_file_is_written_over :
    ∃ held left, (loggedProcess.run ⟨[], []⟩ [loggedCall]).session.volume.get? ["run.log"] =
        some (.file held) ∧
      (loggedProcess.run ⟨[], []⟩ [loggedCall, overwritingCall]).session.volume.get? ["run.log"] =
        some (.file left) ∧ ¬ held <+: left :=
  ⟨Text.encodeUtf8 heldRecords, Text.encodeUtf8 " `1` ", by decide +kernel, by decide +kernel,
    by decide +kernel⟩

end MemberDocs.CommandLine
