import MemberDocs.Generation.Journal

/-! # Loggers

All invocations in a process share one logger, which hands each record to its handlers; the loggers of
the parts of the program have neither level nor handlers and hand their records on to it. An invocation
sets the logger up for itself (`Logger.configure`): it takes away the handlers that there are, and adds
one for the console and one for its log file.
-/

namespace MemberDocs.CommandLine

open Generation (LogFile LogLevel LogRecord)

/-- How much a level matters, as a number. -/
def severity : LogLevel → Nat
  | .debug => 10
  | .info => 20
  | .warning => 30
  | .error => 40

/-- Where a handler writes to. -/
inductive Sink where
  | console
  | file (file : LogFile)
deriving DecidableEq, Repr

/-- A handler writes the records that matter as much as its level, or more. -/
structure Handler where
  /-- The number of the invocation that has added it. -/
  owner : Nat
  level : Nat
  sink : Sink
deriving DecidableEq, Repr

/-- The line of a record on the console. -/
def consoleLine (record : LogRecord) : String :=
  "[xmldoc2md] " ++ record.level.name ++ " " ++ record.message ++ record.trace ++ "\n"

/-- What a handler shows of a record. -/
def Handler.shown (record : LogRecord) (handler : Handler) : String :=
  match handler.sink with
  | .console => consoleLine record
  | .file _ => ""

/-- A logger. -/
structure Logger where
  /-- Records that matter less are dropped. -/
  level : Nat := 0
  handlers : List Handler := []
  /-- The handlers of the loggers above. -/
  outer : List Handler := []
  /-- The handlers of the loggers above are handed the records too. -/
  propagates : Bool := true
deriving DecidableEq, Repr

namespace Logger

/-- Records of a level are handed to the handlers. -/
def isEnabledFor (logger : Logger) (level : LogLevel) : Bool :=
  logger.level ≤ severity level

/-- The handlers that write a record, each as often as it does. -/
def writers (logger : Logger) (level : Nat) : List Handler :=
  if level < logger.level then []
  else (logger.handlers ++ if logger.propagates then logger.outer else []).filter (·.level ≤ level)

/-- What the handlers show of records. -/
def shown (logger : Logger) (records : List LogRecord) : String :=
  String.join (records.flatMap fun record =>
    (logger.writers (severity record.level)).map (Handler.shown record))

def add (logger : Logger) (handler : Handler) : Logger :=
  { logger with handlers := logger.handlers ++ [handler] }

/-- Takes away a handler where it is listed first. -/
def remove (logger : Logger) (handler : Handler) : Logger :=
  { logger with handlers := logger.handlers.erase handler }

/-- Takes away the handlers that there are, one after the other. -/
def removeAll (logger : Logger) : Logger :=
  logger.handlers.foldl remove logger

/-- The level that the console shows. -/
def consoleLevel (verbose : Bool) : Nat :=
  severity (if verbose then .debug else .info)

/-- Sets a logger up for an invocation. A log file that is named is written to if it can be opened; then
the logger itself hands on records of every level. -/
def configure (logger : Logger) (owner : Nat) (verbose named : Bool) (opened : Option LogFile) :
    Logger :=
  let level := if named then severity .debug else consoleLevel verbose
  let logger := { logger with level, propagates := false }.removeAll
  let logger := logger.add ⟨owner, consoleLevel verbose, .console⟩
  match opened with
  | none => logger
  | some file => logger.add ⟨owner, severity .debug, .file file⟩

end Logger

end MemberDocs.CommandLine
