import MemberDocs.CommandLine.Logger
import MemberDocs.CommandLine.Usage
import MemberDocs.Config.Load
import MemberDocs.Generation.Failure

/-! # Sessions

What successive invocations of the program share, and how an invocation ends. The log of an
invocation is its own, whatever the logger has been before: it is shown on the standard error stream,
and can be kept in a file that is opened before anything else is done.
-/

namespace MemberDocs.CommandLine

open Generation (Failure Journal LogFile LogRecord)

/-- The file system and the standard streams. -/
structure Session where
  volume : Volume
  /-- What has not been read of the standard input. -/
  input : List UInt8 := []
  output : String := ""
  errors : String := ""

/-- Why an invocation ends without a status of its own. -/
inductive Escape where
  | failure (failure : Failure)
  | configuration (error : Config.LoadError)
  /-- The standard input is not text. -/
  | input (error : Text.Utf8Error)
deriving DecidableEq, Repr

def Escape.message : Escape → String
  | failure f => f.message
  | configuration error => error.message
  | input error => error.message

/-- How an invocation ends. -/
inductive Ending where
  | returned
  | exited (status : Nat)
  | escaped (escape : Escape)
deriving DecidableEq, Repr

/-- The status that an invocation ends with, unless something escapes. -/
def Ending.status? : Ending → Option Nat
  | returned => some 0
  | exited status => some status
  | escaped _ => none

namespace Session

def print (session : Session) (text : String) : Session :=
  { session with output := session.output ++ text }

def printError (session : Session) (text : String) : Session :=
  { session with errors := session.errors ++ text }

/-- Ends an invocation with a message and the status 1. -/
def fail (session : Session) (text : String) : Session × Ending :=
  (session.printError text, .exited 1)

/-- Ends an invocation whose arguments are not used. -/
def refuse (session : Session) (refusal : Refusal) : Session × Ending :=
  match refusal.stop with
  | .help => (session.print refusal.scope.help, .exited 0)
  | .fault fault => (session.printError (refusal.scope.report fault), .exited 2)

end Session

/-- What is done with the records of an invocation. -/
structure Logging where
  /-- Records of every level are shown. -/
  verbose : Bool := false
  file : Option LogFile := none
  /-- The logger that the invocation has set up. -/
  logger : Logger := Logger.configure {} 0 verbose file.isSome file

namespace Logging

/-- The journal of an invocation at its start. Details of failures are told when the logger hands on
records of every level. -/
def journal (logging : Logging) (volume : Volume) : Journal :=
  { volume, logFile := logging.file, traces := logging.logger.isEnabledFor .debug }

/-- What is shown of records on the standard error stream. -/
def shown (logging : Logging) (records : List LogRecord) : String :=
  logging.logger.shown records

end Logging

/-- The volume with a file that lines can be added to: the one that is there, or an empty one. -/
def openLog (volume : Volume) (path : Path) : Except FileFault Volume :=
  if volume.isFile [] path then .ok volume else volume.write [] path []

/-- An invocation names a log file. An empty path means none. -/
def Invocation.namesLog (invocation : Invocation) : Bool :=
  match invocation.logFile with
  | none | some "" => false
  | some _ => true

/-- Opens the log of an invocation, with what is left of the logger from the invocations before it. An
empty path means no file. -/
def Invocation.openLogging (invocation : Invocation) (directory : Location) (time : String)
    (volume : Volume) (logger : Logger := {}) (owner : Nat := 0) :
    Except FileFault (Logging × Volume) :=
  let verbose := invocation.verbose
  match invocation.logFile with
  | none | some "" =>
    .ok ({ verbose, logger := logger.configure owner verbose false none }, volume)
  | some text => do
    let path := (Path.ofString text).absolute directory
    let volume ← openLog volume path
    let file : LogFile := ⟨path.parts, time⟩
    .ok ({ verbose, file, logger := logger.configure owner verbose true file }, volume)

end MemberDocs.CommandLine
