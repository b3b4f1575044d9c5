import MemberDocs.Generation.Journal
import MemberDocs.Proofs.Volume.Directories

/-! # How journals change

A journal goes on by writing files and by adding lines to its log file, which makes no file and
changes no other one (`Journal.Writes`, `writes_note`), and makes no directory (`opens_note`).
-/

namespace MemberDocs.Generation.Journal

/-- The location is that of the log file. -/
def LogsTo (journal : Journal) (location : Location) : Prop :=
  ∃ file, journal.logFile = some file ∧ file.location = location

theorem not_logsTo {journal : Journal} (none : journal.logFile = none) (location : Location) :
    ¬ journal.LogsTo location := by
  rintro ⟨file, found, -⟩
  simp [none] at found

/-- One journal goes on to another one by writing files at the `written` locations and by notes. -/
structure Writes (written : Location → Prop) (before after : Journal) : Prop where
  volume : Volume.Evolves written (fun location => written location ∨ before.LogsTo location)
    before.volume after.volume
  logFile : after.logFile = before.logFile

namespace Writes

variable {written more : Location → Prop} {first second third : Journal}

theorem refl (written : Location → Prop) (journal : Journal) : Writes written journal journal :=
  ⟨.refl _ _ _, rfl⟩

theorem mono (writes : Writes written first second)
    (grows : ∀ location, written location → more location) : Writes more first second :=
  ⟨writes.volume.mono grows fun location => Or.imp_left (grows location), writes.logFile⟩

theorem logsTo_iff (writes : Writes written first second) (location : Location) :
    second.LogsTo location ↔ first.LogsTo location := by
  rw [LogsTo, LogsTo, writes.logFile]

theorem trans (before : Writes written first second) (after : Writes written second third) :
    Writes written first third := by
  refine ⟨before.volume.trans (after.volume.mono (fun _ => id) fun location => ?_),
    after.logFile.trans before.logFile⟩
  exact Or.imp_right (before.logsTo_iff location).mp

theorem wellFormedAt (writes : Writes written first second) {directory : Location}
    (sound : first.volume.WellFormedAt directory) : second.volume.WellFormedAt directory :=
  writes.volume.wellFormedAt sound

/-- A file that is neither written nor the log file has been as it is. -/
theorem get?_of_not_written (writes : Writes written first second) {location : Location}
    {content : List UInt8} (apart : ¬ written location) (quiet : ¬ first.LogsTo location)
    (found : second.volume.get? location = some (.file content)) :
    first.volume.get? location = some (.file content) :=
  writes.volume.unchanged location content (not_or.mpr ⟨apart, quiet⟩) found

theorem get?_of_apart (writes : Writes written first second) {location : Location}
    {content : List UInt8} (apart : ¬ written location) (quiet : ¬ first.LogsTo location)
    (found : first.volume.get? location = some (.file content)) :
    second.volume.get? location = some (.file content) :=
  writes.volume.get?_of_apart (not_or.mpr ⟨apart, quiet⟩) found

end Writes

variable {journal : Journal}

theorem writes_of_evolves {written : Location → Prop} {volume : Volume}
    (evolves : Volume.Evolves written written journal.volume volume) :
    Writes written journal { journal with volume } :=
  ⟨evolves.mono (fun _ => id) fun _ => Or.inl, rfl⟩

/-- A note changes nothing but the log file. -/
theorem get?_note (record : LogRecord) {location : Location} (quiet : ¬ journal.LogsTo location) :
    (journal.note record).volume.get? location = journal.volume.get? location := by
  unfold note
  cases logs : journal.logFile with
  | none => rfl
  | some file =>
    have apart : location ≠ file.location := fun same => quiet ⟨file, logs, same.symm⟩
    simp only [addLine]
    split
    · exact Volume.get?_put_of_ne _ apart _
    · rfl

/-- A note writes no file. -/
theorem writes_note (wellFormed : journal.volume.WellFormed) (record : LogRecord) :
    Writes (fun _ => False) journal (journal.note record) := by
  refine ⟨?_, rfl⟩
  unfold note
  cases logs : journal.logFile with
  | none => exact .refl _ _ _
  | some file =>
    simp only [addLine]
    split
    next content there =>
      have notTop : file.location ≠ [] := by
        intro top
        simp [top] at there
      have put := @Volume.evolves_put _ _ (.file (content ++ Text.encodeUtf8 (file.line record)))
        notTop (wellFormed.not_mem_of_get? there) (wellFormed.get?_dropLast there)
        (by simp [there]) (by simp)
      refine (put.of_existing ?_).mono (fun _ => id) ?_
      · rintro location ⟨rfl, -⟩
        exact ⟨content, there⟩
      · rintro location ⟨rfl, -⟩
        exact Or.inr ⟨file, logs, rfl⟩
    next => exact .refl _ _ _

/-- The journal with some records noted one after the other. -/
def notes (journal : Journal) (records : List LogRecord) : Journal :=
  records.foldl note journal

theorem notes_concat (journal : Journal) (records : List LogRecord) (record : LogRecord) :
    journal.notes (records ++ [record]) = (journal.notes records).note record :=
  List.foldl_append

theorem writes_notes (wellFormed : journal.volume.WellFormed) (records : List LogRecord) :
    Writes (fun _ => False) journal (journal.notes records) := by
  induction records generalizing journal with
  | nil => exact .refl _ _
  | cons record rest ih =>
    have first := writes_note wellFormed record
    exact first.trans (ih (first.volume.wellFormed wellFormed))

/-- Notes change nothing but the log file. -/
theorem get?_notes (records : List LogRecord) {location : Location}
    (quiet : ¬ journal.LogsTo location) :
    (journal.notes records).volume.get? location = journal.volume.get? location := by
  induction records generalizing journal with
  | nil => rfl
  | cons record rest ih => exact (@ih (journal.note record) quiet).trans (get?_note record quiet)

theorem volume_notes (records : List LogRecord) (none : journal.logFile = none) :
    (journal.notes records).volume = journal.volume := by
  induction records generalizing journal with
  | nil => rfl
  | cons record rest ih =>
    exact (@ih (journal.note record) none).trans (volume_note record none)

/-- A note makes no directory. -/
theorem opens_note (journal : Journal) (record : LogRecord) :
    Volume.Opens (fun _ => False) journal.volume (journal.note record).volume := by
  unfold note
  cases logs : journal.logFile with
  | none => exact .refl _ _
  | some file =>
    simp only [addLine]
    split
    next => exact Volume.opens_put_file _ _ _
    next => exact .refl _ _

theorem opens_notes (journal : Journal) (records : List LogRecord) :
    Volume.Opens (fun _ => False) journal.volume (journal.notes records).volume := by
  induction records generalizing journal with
  | nil => exact .refl _ _
  | cons record rest ih => exact (journal.opens_note record).trans (ih _)

end MemberDocs.Generation.Journal
