import MemberDocs.Generation.Run
import MemberDocs.Proofs.Generation.Journal

/-! # What generation writes

An input that is skipped, or that stops the run, has written nothing; each other one has written its
output and no other file (`writes_of_generateFile`). So whatever has been written when the inputs
have been worked through is listed as generated (`extends_of_generateAll`).
-/

namespace MemberDocs.Generation

variable {directory : Location}

/-- An output is written if the input is neither refused nor reported. -/
theorem writes_of_generateFile {journal after : Journal} {source output : Path}
    {outcome : Except Failure (Option TagReport)}
    (sound : journal.volume.WellFormedAt directory)
    (done : generateFile journal directory source output = (after, outcome)) :
    Journal.Writes (fun location => outcome = .ok none ∧ location = output.resolve directory)
      journal after := by
  unfold generateFile at done
  split at done
  next =>
    obtain ⟨rfl, rfl⟩ := Prod.mk.inj done
    exact .refl _ _
  next =>
    split at done
    next =>
      obtain ⟨rfl, rfl⟩ := Prod.mk.inj done
      exact .refl _ _
    next =>
      obtain ⟨rfl, rfl⟩ := Prod.mk.inj done
      exact .refl _ _
    next =>
      split at done
      next =>
        obtain ⟨rfl, rfl⟩ := Prod.mk.inj done
        exact .refl _ _
      next volume written =>
        obtain ⟨rfl, rfl⟩ := Prod.mk.inj done
        have writes := Journal.writes_of_evolves (Volume.evolves_of_write sound written).1
        have notes := Journal.writes_note (writes.wellFormedAt sound).wellFormed
        refine (writes.trans ((notes _).mono fun _ => False.elim)).mono ?_
        exact fun location here => ⟨rfl, here⟩

/-- One progress has come from another one by writing the files that it lists in addition. -/
def Progress.Extends (directory : Location) (before after : Progress) : Prop :=
  ∃ fresh, after.generated = before.generated ++ fresh ∧
    Journal.Writes (· ∈ fresh.map (·.resolve directory)) before.journal after.journal

namespace Progress.Extends

variable {first second third : Progress}

theorem refl (progress : Progress) : Progress.Extends directory progress progress :=
  ⟨[], (List.append_nil _).symm, .refl _ _⟩

theorem trans (before : Progress.Extends directory first second)
    (after : Progress.Extends directory second third) : Progress.Extends directory first third := by
  obtain ⟨fresh, listed, writes⟩ := before
  obtain ⟨more, listedMore, writesMore⟩ := after
  refine ⟨fresh ++ more, by rw [listedMore, listed, List.append_assoc], ?_⟩
  rw [List.map_append]
  exact (writes.mono fun _ => List.mem_append_left _).trans
    (writesMore.mono fun _ => List.mem_append_right _)

theorem wellFormedAt (extended : Progress.Extends directory first second)
    (sound : first.journal.volume.WellFormedAt directory) :
    second.journal.volume.WellFormedAt directory := by
  obtain ⟨_, -, writes⟩ := extended
  exact writes.wellFormedAt sound

/-- A progress that lists nothing in addition has written no file. -/
theorem of_writes (writes : Journal.Writes (fun _ => False) first.journal second.journal)
    (listed : second.generated = first.generated) : Progress.Extends directory first second :=
  ⟨[], by rw [listed, List.append_nil], writes.mono fun _ => False.elim⟩

end Progress.Extends

/-- One input. -/
theorem extends_of_generateNext {policy : TagPolicy} {output : Path → Path}
    {progress later : Progress} {source : Path} {failure : Option Failure}
    (sound : progress.journal.volume.WellFormedAt directory)
    (done : generateNext directory policy output progress source = (later, failure)) :
    Progress.Extends directory progress later := by
  unfold generateNext at done
  split at done
  next journal stopped generated =>
    obtain ⟨rfl, rfl⟩ := Prod.mk.inj done
    exact .of_writes ((writes_of_generateFile sound generated).mono (by simp)) rfl
  next journal generated =>
    obtain ⟨rfl, rfl⟩ := Prod.mk.inj done
    exact ⟨[output source], rfl, (writes_of_generateFile sound generated).mono (by simp)⟩
  next journal report generated =>
    have writes : Journal.Writes (fun _ => False) progress.journal journal :=
      (writes_of_generateFile sound generated).mono (by simp)
    split at done
    next =>
      obtain ⟨rfl, rfl⟩ := Prod.mk.inj done
      have notes := Journal.writes_note (writes.wellFormedAt sound).wellFormed
      exact .of_writes (writes.trans (notes _)) rfl
    next =>
      obtain ⟨rfl, rfl⟩ := Prod.mk.inj done
      exact .of_writes writes rfl

/-- All inputs, up to the first that stops the run. -/
theorem extends_of_generateAll {policy : TagPolicy} {output : Path → Path}
    {progress later : Progress} {sources : List Path} {failure : Option Failure}
    (sound : progress.journal.volume.WellFormedAt directory)
    (done : generateAll directory policy output progress sources = (later, failure)) :
    Progress.Extends directory progress later := by
  induction sources generalizing progress with
  | nil =>
    obtain ⟨rfl, rfl⟩ := Prod.mk.inj done
    exact .refl _
  | cons source sources ih =>
    rw [generateAll] at done
    split at done
    next next stopped one =>
      obtain ⟨rfl, rfl⟩ := Prod.mk.inj done
      exact extends_of_generateNext sound one
    next next one =>
      have step := extends_of_generateNext sound one
      exact step.trans (ih (step.wellFormedAt sound) done)

end MemberDocs.Generation
