import MemberDocs.CommandLine.Program
import MemberDocs.Volume.Changes
import Std.Time.Format

/-! # The executable

Reads what an invocation can look at into a volume, carries the invocation out on the volume, and
writes back what has changed. Links to directories are not followed.
-/

namespace MemberDocs.Main

open MemberDocs.CommandLine

/-- How the system names a location. -/
def systemName (location : Location) : String :=
  (Path.ofLocation location).text

/-- Adds what is at a location to a volume. -/
def observe (volume : Volume) (location : Location) : IO Volume := do
  if (volume.get? location).isSome then return volume
  try
    let path ← IO.FS.realPath (systemName location)
    if ← path.isDir then return volume.put location .directory
    return volume.put location (.file (← IO.FS.readBinFile path).toList)
  catch _ => return volume

/-- Adds what a path leads through to a volume. -/
def observeWay (directory : Location) (volume : Volume) (path : Path) : IO Volume :=
  (List.range (path.parts.length + 1)).foldlM
    (fun volume n => observe volume (Path.resolve directory ⟨path.anchor, path.parts.take n⟩))
    volume

/-- Adds what is at a location or below it to a volume. -/
partial def observeBelow (volume : Volume) (location : Location) : IO Volume := do
  let volume ← observe volume location
  if volume.get? location ≠ some .directory then return volume
  let directory ← IO.FS.realPath (systemName location)
  (← directory.readDir).foldlM (fun volume entry => do
    let inner := location ++ [entry.fileName]
    if (← IO.FS.realPath entry.path) = entry.path then observeBelow volume inner
    else observe volume inner) volume

def observeSettings (directory : Location) (volume : Volume) (settings : Generation.Settings) :
    IO Volume := do
  let documentation := settings.documentation.toList
  let outputs := documentation.flatMap fun path =>
    settings.inputs.map fun input => path.child (input.stem ++ ".md")
  let named := settings.inputs ++ documentation ++ settings.output.toList ++ outputs
  let volume ← named.foldlM (observeWay directory) volume
  documentation.foldlM (fun volume path => observeBelow volume (path.resolve directory)) volume

/-- The volume that an invocation can look at. -/
def observeFor (surroundings : Config.Surroundings) (invocation : Invocation) : IO Volume := do
  let directory := surroundings.directory
  let ways (volume : Volume) (texts : List String) : IO Volume :=
    (texts.map Path.ofString).foldlM (observeWay directory) volume
  let top ← observeWay [] ⟨[]⟩ (.ofLocation directory)
  let volume ← ways top invocation.logFile.toList
  match invocation.request with
  | .convert arguments => ways volume (arguments.inputFile.toList ++ arguments.outputFile.toList)
  | .generate arguments =>
    match Config.expandHome surroundings (Path.ofString arguments.config) with
    | .error _ => return volume
    | .ok path =>
      let volume ← [path, path.child Config.fileName].foldlM (observeWay directory) volume
      match arguments.settings surroundings volume with
      | .error _ => return volume
      | .ok settings => observeSettings directory volume settings

def writeBack (before after : Volume) : IO Unit :=
  (Volume.changesBelow [] before after).forM fun (path, change) =>
    match change with
    | .written content => IO.FS.writeBinFile ("/" ++ path) ⟨content.toArray⟩
    | .directoryMade => IO.FS.createDirAll ("/" ++ path)
    | .removed => pure ()

/-- The working directory and the home of the present user. -/
def readSurroundings : IO Config.Surroundings := do
  let directory ← IO.currentDir
  let home ← IO.getEnv "HOME"
  return ⟨(Path.ofString directory.toString).parts, home.toList.map fun path => ("", path)⟩

/-- The present time, to the millisecond. -/
def readTime : IO String := do
  let time ← Std.Time.PlainDateTime.now
  return time.format "uuuu-MM-dd HH:mm:ss,SSS"

/-- Everything on the standard input, if an invocation reads it. -/
def readInput (invocation : Invocation) : IO (List UInt8) := do
  match invocation.request with
  | .convert arguments =>
    if arguments.source? = some .console then
      return (← (← IO.getStdin).readBinToEnd).toList
    else return []
  | .generate _ => return []

/-- Shows the streams of a session and gives the status of the process. -/
def finish (session : Session) (ending : Ending) : IO UInt32 := do
  (← IO.getStdout).putStr session.output
  (← IO.getStderr).putStr session.errors
  match ending with
  | .returned => return 0
  | .exited status => return status.toUInt32
  | .escaped escape =>
    (← IO.getStderr).putStrLn escape.message
    return 1

end MemberDocs.Main

open MemberDocs MemberDocs.Main MemberDocs.CommandLine in
/-- One invocation with the arguments of the process. -/
def main (arguments : List String) : IO UInt32 := do
  match Invocation.ofArguments arguments with
  | .error refusal =>
    let (session, ending) := Session.refuse { volume := ⟨[]⟩ } refusal
    finish session ending
  | .ok invocation =>
    let surroundings ← readSurroundings
    let volume ← observeFor surroundings invocation
    let input ← readInput invocation
    let (session, ending) := invoke surroundings (← readTime) { volume, input } arguments
    writeBack volume session.volume
    finish session ending
