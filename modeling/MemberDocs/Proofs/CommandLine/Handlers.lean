import MemberDocs.CommandLine.Program
import MemberDocs.Proofs.Generation.Growth

/-! # Handlers

Whatever invocations have been before, a record is written by the handlers of the last one alone
(`writers_configure`). What these show is the records that matter enough, each once (`shown_of_own`),
and what they add to the log file is every record (`added_of_own`). So an invocation does what it does
in a new process (`carryOut_eq_invoke`).
-/

namespace MemberDocs.CommandLine

open Config (Surroundings)
open Generation (LogFile LogRecord addedTo addedTo_append addedTo_nil)

/-- What a handler adds to the file at a location for a record. -/
def Handler.added (location : Location) (record : LogRecord) (handler : Handler) : List UInt8 :=
  match handler.sink with
  | .console => []
  | .file file => addedTo (some file) location [record]

namespace Logger

/-- What the handlers add to the file at a location for records. -/
def added (logger : Logger) (location : Location) (records : List LogRecord) : List UInt8 :=
  records.flatMap fun record =>
    (logger.writers (severity record.level)).flatMap (Handler.added location record)

@[simp] theorem shown_nil (logger : Logger) : logger.shown [] = "" := rfl

theorem shown_append (logger : Logger) (first second : List LogRecord) :
    logger.shown (first ++ second) = logger.shown first ++ logger.shown second := by
  rw [shown, shown, shown, List.flatMap_append, String.join_append]

theorem foldl_remove {logger : Logger} {handlers : List Handler}
    (same : logger.handlers = handlers) :
    handlers.foldl remove logger = { logger with handlers := [] } := by
  induction handlers generalizing logger with
  | nil => rw [List.foldl_nil, ← same]
  | cons handler rest ih =>
    have left : (logger.remove handler).handlers = rest := by
      rw [remove, same, List.erase_cons_head]
    rw [List.foldl_cons, ih left, remove]

/-- No handler is forgotten. -/
theorem removeAll_eq (logger : Logger) : logger.removeAll = { logger with handlers := [] } :=
  foldl_remove rfl

/-- The handlers of an invocation that write a record: the one of its console, and the one of its log
file if it has one. -/
def own (owner : ℕ) (verbose : Bool) (opened : Option LogFile) (level : ℕ) : List Handler :=
  (if consoleLevel verbose ≤ level then [⟨owner, consoleLevel verbose, .console⟩] else []) ++
    if severity .debug ≤ level then
      opened.toList.map fun file => ⟨owner, severity .debug, .file file⟩
    else []

theorem debug_le_consoleLevel (verbose : Bool) : severity .debug ≤ consoleLevel verbose := by
  cases verbose <;> decide

/-- However a logger has been set up before, it has the handlers of the invocation that has set it up
last, and no others. -/
theorem writers_configure {named : Bool} {opened : Option LogFile}
    (known : opened.isSome → named) (logger : Logger) (owner : ℕ) (verbose : Bool) (level : ℕ) :
    (logger.configure owner verbose named opened).writers level =
      own owner verbose opened level := by
  have least := debug_le_consoleLevel verbose
  cases opened with
  | none =>
    simp only [configure, removeAll_eq, add, writers, own, List.nil_append, Option.toList_none,
      List.map_nil, ite_self, List.append_nil, Bool.false_eq_true, ↓reduceIte]
    by_cases shows : consoleLevel verbose ≤ level
    · have passes : ¬ level < if named then severity .debug else consoleLevel verbose := by
        split <;> omega
      simp [passes, shows]
    · simp [shows]
  | some file =>
    obtain rfl : named = true := known rfl
    simp only [configure, removeAll_eq, add, writers, own, List.nil_append, ↓reduceIte,
      Bool.false_eq_true, List.append_nil]
    by_cases keeps : severity .debug ≤ level
    · rw [if_neg (by omega), List.filter_append]
      by_cases shows : consoleLevel verbose ≤ level <;> simp [keeps, shows]
    · have hides : ¬ consoleLevel verbose ≤ level := by omega
      simp [keeps, hides]

section

variable {logger : Logger} {owner : ℕ} {verbose : Bool} {opened : Option LogFile}
  (writes : ∀ level, logger.writers level = own owner verbose opened level)

include writes

/-- The handlers of an invocation show the records that matter enough, each once. -/
theorem shown_of_own (records : List LogRecord) :
    logger.shown records =
      String.join ((records.filter fun record => verbose || record.level ≠ .debug).map
        consoleLine) := by
  induction records with
  | nil => rfl
  | cons record rest ih =>
    have one : logger.shown [record] =
        String.join (([record].filter fun record => verbose || record.level ≠ .debug).map
          consoleLine) := by
      rw [shown, List.flatMap_singleton, writes, own, List.filter_singleton]
      cases record.level <;> cases verbose <;> cases opened <;>
        simp [severity, consoleLevel, Handler.shown]
    rw [← List.singleton_append, shown_append, one, ih, ← String.join_append, ← List.map_append,
      ← List.filter_append]

/-- The handlers of an invocation add to a file what its log adds. -/
theorem added_of_own (location : Location) (records : List LogRecord) :
    logger.added location records = addedTo opened location records := by
  induction records with
  | nil => rw [addedTo_nil]; rfl
  | cons record rest ih =>
    have one : (logger.writers (severity record.level)).flatMap (Handler.added location record) =
        addedTo opened location [record] := by
      rw [writes, own]
      cases record.level <;> cases verbose <;> cases opened <;>
        simp [severity, consoleLevel, Handler.added, addedTo]
    rw [← List.singleton_append, addedTo_append, ← one, ← ih]
    simp [added]

end

theorem isEnabledFor_configure (logger : Logger) (owner : ℕ) (verbose named : Bool)
    (opened : Option LogFile) :
    (logger.configure owner verbose named opened).isEnabledFor .debug = (verbose || named) := by
  cases opened <;> cases verbose <;> cases named <;>
    simp [configure, removeAll_eq, add, isEnabledFor, severity, consoleLevel]

end Logger

/-! ## Whatever the logger has been before -/

variable {surroundings : Surroundings} {session : Session}

/-- Two ways to keep a log that tell and show the same. -/
structure Logging.Agrees (logging logging' : Logging) : Prop where
  journal : ∀ volume, logging.journal volume = logging'.journal volume
  shown : ∀ records, logging.shown records = logging'.shown records

theorem carryOut_congr {logging logging' : Logging} (agrees : logging.Agrees logging')
    (invocation : Invocation) :
    invocation.carryOut session surroundings logging =
      invocation.carryOut session surroundings logging' := by
  unfold Invocation.carryOut generate runWith
  simp only [agrees.journal, agrees.shown]

/-- An invocation sets its log up as it likes, whatever the logger has been before. -/
theorem Logging.agrees_of_configure {logging : Logging}
    (new : logging.logger =
      Logger.configure {} 0 logging.verbose logging.file.isSome logging.file)
    (logger : Logger) (owner : ℕ) :
    Agrees { logging with
      logger := logger.configure owner logging.verbose logging.file.isSome logging.file } logging where
  journal volume := by
    unfold Logging.journal
    rw [new, Logger.isEnabledFor_configure, Logger.isEnabledFor_configure]
  shown records := by
    unfold Logging.shown
    rw [new, Logger.shown_of_own (Logger.writers_configure id logger owner logging.verbose),
      Logger.shown_of_own (Logger.writers_configure id {} 0 logging.verbose)]

/-- Opening a log, with any logger. -/
theorem openLogging_eq (invocation : Invocation) (directory : Location) (time : String)
    (volume : Volume) (logger : Logger) (owner : ℕ) :
    invocation.openLogging directory time volume logger owner =
      (invocation.openLogging directory time volume).map fun opened =>
        ({ opened.1 with
          logger := logger.configure owner opened.1.verbose opened.1.file.isSome opened.1.file },
          opened.2) := by
  unfold Invocation.openLogging
  dsimp only
  split
  next => rfl
  next => rfl
  next text _ _ =>
    simp only [bind, Except.bind]
    cases openLog volume ((Path.ofString text).absolute directory) <;> rfl

theorem logger_of_openLogging {invocation : Invocation} {directory : Location} {time : String}
    {volume opened : Volume} {logging : Logging}
    (opens : invocation.openLogging directory time volume = .ok (logging, opened)) :
    logging.logger = Logger.configure {} 0 logging.verbose logging.file.isSome logging.file := by
  have again := openLogging_eq invocation directory time volume {} 0
  rw [opens] at again
  exact congrArg (·.1.logger) (Except.ok.inj again)

/-- An invocation does what it does in a new process, whatever invocations have been before. -/
theorem Process.carryOut_eq_invoke (surroundings : Surroundings) (process : Process) (call : Call) :
    process.carryOut surroundings call =
      CommandLine.invoke surroundings call.time process.session call.arguments := by
  unfold Process.carryOut CommandLine.invoke
  cases Invocation.ofArguments call.arguments with
  | error refusal => rfl
  | ok invocation =>
    dsimp only
    rw [openLogging_eq _ _ _ _ process.logger process.count]
    cases opens : invocation.openLogging surroundings.directory call.time process.session.volume with
    | error fault => rfl
    | ok opened =>
      obtain ⟨logging, opened⟩ := opened
      exact carryOut_congr (Logging.agrees_of_configure (logger_of_openLogging opens) _ _) invocation

end MemberDocs.CommandLine
