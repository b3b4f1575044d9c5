import MemberDocs.CommandLine.Convert
import MemberDocs.CommandLine.Generate

/-! # The program

One invocation reads its arguments, opens its log and carries out its command. Several invocations
can follow each other in one process (`Process`): they share the session and the logger.
-/

namespace MemberDocs.CommandLine

open Config (Surroundings)

/-- Carries out what the arguments of an invocation say. -/
def Invocation.carryOut (invocation : Invocation) (session : Session) (surroundings : Surroundings)
    (logging : Logging) : Session × Ending :=
  match invocation.request with
  | .convert arguments => convert session surroundings.directory arguments
  | .generate arguments => generate session surroundings logging arguments

/-- One invocation of the program, at a time of which only the log file tells, with what is left of the
logger from the invocations before it. -/
def invoke (surroundings : Surroundings) (time : String) (session : Session)
    (arguments : List String) (logger : Logger := {}) (owner : Nat := 0) : Session × Ending :=
  match Invocation.ofArguments arguments with
  | .error refusal => session.refuse refusal
  | .ok invocation =>
    match invocation.openLogging surroundings.directory time session.volume logger owner with
    | .error fault => (session, .escaped (.failure (.file fault)))
    | .ok (logging, volume) =>
      invocation.carryOut { session with volume } surroundings logging

/-- What an invocation is started with. -/
structure Call where
  /-- The time that its log file tells. -/
  time : String
  arguments : List String

/-- What the invocations in one process share. -/
structure Process where
  session : Session
  logger : Logger := {}
  /-- How many invocations there have been. -/
  count : Nat := 0

namespace Process

/-- How an invocation ends, and the session after it. -/
def carryOut (surroundings : Surroundings) (process : Process) (call : Call) : Session × Ending :=
  CommandLine.invoke surroundings call.time process.session call.arguments process.logger process.count

/-- The process after an invocation that has left a session. An invocation whose arguments are not used
does not come to set up the logger. -/
def leave (surroundings : Surroundings) (process : Process) (call : Call) (session : Session) :
    Process where
  session := session
  logger :=
    match Invocation.ofArguments call.arguments with
    | .error _ => process.logger
    | .ok invocation =>
      process.logger.configure process.count invocation.verbose invocation.namesLog
        ((invocation.openLogging surroundings.directory call.time
          process.session.volume).toOption.bind (·.1.file))
  count := process.count + 1

/-- The process after an invocation, however this ends. -/
def invoke (surroundings : Surroundings) (process : Process) (call : Call) : Process :=
  process.leave surroundings call (process.carryOut surroundings call).1

/-- Invocations one after the other, up to the first that does not return. -/
def invokeAll (surroundings : Surroundings) (time : String) (process : Process) :
    List (List String) → Process × Ending
  | [] => (process, .returned)
  | arguments :: others =>
    let call : Call := ⟨time, arguments⟩
    let (session, ending) := process.carryOut surroundings call
    let after := process.leave surroundings call session
    match ending with
    | .returned => after.invokeAll surroundings time others
    | ending => (after, ending)

end Process

/-- Invocations in a new process one after the other, up to the first that does not return. -/
def invokeAll (surroundings : Surroundings) (time : String) (session : Session)
    (invocations : List (List String)) : Session × Ending :=
  let (process, ending) := Process.invokeAll surroundings time { session } invocations
  (process.session, ending)

end MemberDocs.CommandLine
