import MemberDocs.CommandLine.Session
import MemberDocs.Generation.Run

/-! # The command for several documents

Settings come from the configuration file, and each one from the arguments if they have it. A run
that succeeds is reported on the standard output, with the paths as they are seen from the working
directory.
-/

namespace MemberDocs.CommandLine

open Config (Surroundings LoadError)
open Generation (RunResult Settings)

/-- The path that an argument gives, unless it is empty. -/
def givenPath? (argument : Option String) : Option Path :=
  (argument.filter (!·.isEmpty)).map Path.ofString

/-- Settings with those of the arguments in their places. -/
def GenerateArguments.override (arguments : GenerateArguments) (settings : Settings) : Settings where
  inputs :=
    if arguments.inputs.isEmpty then settings.inputs else arguments.inputs.map Path.ofString
  documentation := (givenPath? arguments.documentation).or settings.documentation
  mergesFiles := arguments.merges || settings.mergesFiles
  output := (givenPath? arguments.output).or settings.output
  policy := if arguments.warns then .warn else settings.policy

/-- The settings that the arguments and the configuration file make. -/
def GenerateArguments.settings (arguments : GenerateArguments) (surroundings : Surroundings)
    (volume : Volume) : Except LoadError Settings :=
  (Config.load surroundings volume (Path.ofString arguments.config)).map arguments.override

/-- What is told about a run that has succeeded. -/
def reportText (directory : Location) (result : RunResult) : String :=
  let generated := result.generated.map fun path =>
    "Markdown generated at " ++ (path.seenFrom directory).text
  let merged := result.merged.toList.map fun path =>
    "Merged Markdown written to " ++ (path.seenFrom directory).text
  textOfLines (generated ++ merged)

/-- What is told about a run that has failed. -/
def failureText (result : RunResult) : String :=
  textOfLines ["xmldoc2md generate failed: " ++ String.intercalate "; " result.errors,
    "Run with --verbose for more details."]

def runWith (session : Session) (directory : Location) (logging : Logging)
    (settings : Settings) : Session × Ending :=
  let (journal, result) := Generation.run (logging.journal session.volume) directory settings
  let session := { session with volume := journal.volume }
  let session := session.printError (logging.shown journal.records)
  match result with
  | .error failure => (session, .escaped (.failure failure))
  | .ok result =>
    if result.success then (session.print (reportText directory result), .returned)
    else session.fail (failureText result)

/-- Generates several documents. A configuration file that does not hold settings is reported. -/
def generate (session : Session) (surroundings : Surroundings) (logging : Logging)
    (arguments : GenerateArguments) : Session × Ending :=
  match arguments.settings surroundings session.volume with
  | .error error =>
    match error with
    | .malformed _ _ | .notMapping => session.fail (error.message ++ "\n")
    | _ => (session, .escaped (.configuration error))
  | .ok settings => runWith session surroundings.directory logging settings

end MemberDocs.CommandLine
