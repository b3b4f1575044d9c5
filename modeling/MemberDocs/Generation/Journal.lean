import MemberDocs.Text.Utf8
import MemberDocs.Volume.Basic

/-! # Journals

What a run does to the volume and what it tells about it. Every record is kept in order; if there is
a log file, each record is also added to its end at once, so that a run can come to read its own log.
-/

namespace MemberDocs.Generation

/-- How much a record matters. -/
inductive LogLevel where
  | debug
  | info
  | warning
  | error
deriving DecidableEq, Repr

def LogLevel.name : LogLevel → String
  | debug => "DEBUG"
  | info => "INFO"
  | warning => "WARNING"
  | error => "ERROR"

/-- Which part of the program writes a record. -/
inductive LogSource where
  | run
  | merge
  | frontMatter
deriving DecidableEq, Repr

def LogSource.name : LogSource → String
  | run => "xmldoc2md.orchestrator"
  | merge => "xmldoc2md.merge"
  | frontMatter => "xmldoc2md.frontmatter"

/-- A record. -/
structure LogRecord where
  level : LogLevel
  source : LogSource
  message : String
  /-- The record shows where a failure came from, on a line of its own. -/
  hasTrace : Bool := false
deriving DecidableEq, Repr

/-- The line that stands for the origin of a failure. -/
def LogRecord.trace (record : LogRecord) : String :=
  if record.hasTrace then "\n<traceback>" else ""

/-- A log file. -/
structure LogFile where
  location : Location
  /-- The time that each line starts with. -/
  time : String
deriving DecidableEq, Repr

/-- The line of a record in a log file. -/
def LogFile.line (file : LogFile) (record : LogRecord) : String :=
  file.time ++ " " ++ record.level.name ++ " " ++ record.source.name ++ ": " ++ record.message ++
    record.trace ++ "\n"

/-- The state of a run. -/
structure Journal where
  volume : Volume
  records : List LogRecord := []
  logFile : Option LogFile := none
  /-- The records of failures have a trace. -/
  traces : Bool := false

namespace Journal

/-- The volume after a line has been added to a log file. -/
def addLine (volume : Volume) (location : Location) (line : String) : Volume :=
  match volume.get? location with
  | some (.file content) => volume.put location (.file (content ++ Text.encodeUtf8 line))
  | _ => volume

def note (journal : Journal) (record : LogRecord) : Journal :=
  { journal with
    records := journal.records ++ [record]
    volume :=
      match journal.logFile with
      | none => journal.volume
      | some file => addLine journal.volume file.location (file.line record) }

/-- A journal without a log file does nothing to the volume. -/
theorem volume_note {journal : Journal} (record : LogRecord) (none : journal.logFile = none) :
    (journal.note record).volume = journal.volume := by
  simp [note, none]

theorem logFile_note (journal : Journal) (record : LogRecord) :
    (journal.note record).logFile = journal.logFile := rfl

end Journal

end MemberDocs.Generation
