import MemberDocs.Proofs.Generation.Frame

/-! # How a log file grows

Each record that a run tells is one line more in its log file, and nothing else is added to a file
that the run does not write (`Journal.Steps.exists_told`).
-/

namespace MemberDocs.Generation

/-- What is added to the file at a location when records are told: their lines, if it is the log
file. -/
def addedTo (logFile : Option LogFile) (location : Location) (records : List LogRecord) :
    List UInt8 :=
  match logFile with
  | none => []
  | some file =>
    if file.location = location then
      records.flatMap fun record => Text.encodeUtf8 (file.line record)
    else []

@[simp] theorem addedTo_nil (logFile : Option LogFile) (location : Location) :
    addedTo logFile location [] = [] := by
  unfold addedTo
  split
  next => rfl
  next => split <;> rfl

theorem addedTo_append (logFile : Option LogFile) (location : Location)
    (first second : List LogRecord) :
    addedTo logFile location (first ++ second) =
      addedTo logFile location first ++ addedTo logFile location second := by
  unfold addedTo
  split
  next => rfl
  next =>
    split
    next => exact List.flatMap_append
    next => rfl

namespace Journal

theorem get?_note_of_file {journal : Journal} {location : Location} {content : List UInt8}
    (there : journal.volume.get? location = some (.file content)) (record : LogRecord) :
    (journal.note record).volume.get? location =
      some (.file (content ++ addedTo journal.logFile location [record])) := by
  unfold note addedTo
  cases logs : journal.logFile with
  | none => simpa using there
  | some file =>
    dsimp only
    by_cases here : file.location = location
    · subst here
      have notTop : file.location ≠ [] := by
        intro top
        simp [top] at there
      rw [addLine, there]
      simp [Volume.get?_put_self _ notTop]
    · rw [if_neg here, List.append_nil, addLine]
      split
      next => rw [Volume.get?_put_of_ne _ (Ne.symm here), there]
      next => exact there

/-- What steps tell is added to the records and to the log file, and nothing else is added to a file
that is not written. -/
theorem Steps.exists_told {written opened : Location → Prop} {first second : Journal}
    (steps : Steps written opened first second) :
    second.logFile = first.logFile ∧ ∃ told, second.records = first.records ++ told ∧
      ∀ location content, ¬ written location →
        first.volume.get? location = some (.file content) →
          second.volume.get? location =
            some (.file (content ++ addedTo first.logFile location told)) := by
  induction steps with
  | refl =>
    refine ⟨rfl, [], (List.append_nil _).symm, fun location content _ there => ?_⟩
    rw [addedTo_nil, List.append_nil, there]
  | @tail middle last _ step ih =>
    obtain ⟨kept, told, listed, grows⟩ := ih
    cases step with
    | tells record =>
      refine ⟨kept, told ++ [record], ?_, fun location content apart there => ?_⟩
      · rw [note, listed, List.append_assoc]
      · rw [get?_note_of_file (grows location content apart there), kept, addedTo_append,
          List.append_assoc]
    | changes evolves opens =>
      exact ⟨kept, told, listed, fun location content apart there =>
        evolves.get?_of_apart apart (grows location content apart there)⟩

end Journal

end MemberDocs.Generation
