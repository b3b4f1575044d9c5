import MemberDocs.Collection.Discovery
import MemberDocs.Generation.Failure
import MemberDocs.Generation.Journal

/-! # Merging

One file from many: first the Markdown files that were there before, in the order of their
discovery, then the generated ones in the order of their generation, with a line break between two
of them. A generated file, or the output of an earlier merge, is no file that was there before. All
files are read before the output is written, which may be one of them.
-/

namespace MemberDocs.Collection

open Generation

/-- The discovered files that are neither generated nor the output. -/
def existingSources (directory : Location) (discovered generated : List Path) (output : Path) :
    List Path :=
  let known := (output :: generated).map (·.resolve directory)
  discovered.filter fun path => !known.contains (path.resolve directory)

/-- The files of a merge that were there before. -/
def findExisting (volume : Volume) (directory : Location) (documentation : Path)
    (generated : List Path) (output : Path) : Except Failure (List Path) :=
  if (output :: generated).any Path.hasNull then .error (.file .nullInPath)
  else
    match discover volume directory documentation with
    | .error fault => .error (.file fault)
    | .ok discovered =>
      let existing := existingSources directory discovered generated output
      if existing.isEmpty && generated.isEmpty then .error .nothingToMerge else .ok existing

/-- Contents one after the other, with a line break between two of them. -/
def joinContents (contents : List (List UInt8)) : List UInt8 :=
  List.intercalate [10] contents

/-- Reads the sources and writes the output, with the directory that it is in. -/
def writeMerged (volume : Volume) (directory : Location) (sources : List Path) (output : Path) :
    Volume × Option FileFault :=
  match sources.mapM (volume.read directory) with
  | .error fault => (volume, some fault)
  | .ok contents =>
    match volume.ensureDirectories directory output.parent with
    | (made, some fault) => (made, some fault)
    | (made, none) =>
      match made.write directory output (joinContents contents) with
      | .error fault => (made, some fault)
      | .ok written => (written, none)

/-- What is told about a merge before it is done. -/
def mergeRecord (existing generated : List Path) (output : Path) : LogRecord :=
  { level := .debug, source := .merge
    message := "Merging " ++ toString existing.length ++ " existing and " ++
      toString generated.length ++ " generated file(s) into " ++ output.text }

/-- Merges the Markdown files of a documentation path and the generated ones into an output file. -/
def merge (journal : Journal) (directory : Location) (documentation : Path)
    (generated : List Path) (output : Path) : Journal × Option Failure :=
  match findExisting journal.volume directory documentation generated output with
  | .error failure => (journal, some failure)
  | .ok existing =>
    let journal := journal.note (mergeRecord existing generated output)
    let (volume, fault) := writeMerged journal.volume directory (existing ++ generated) output
    ({ journal with volume }, fault.map .file)

end MemberDocs.Collection
