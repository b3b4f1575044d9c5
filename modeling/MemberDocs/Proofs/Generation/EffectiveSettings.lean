import MemberDocs.Proofs.Generation.Stages

/-! # Settings in effect

The settings that front matter leaves in effect are a matter of the volume alone
(`snd_applyFrontMatter`): nothing that is told on the way has a part in them. So settings that have been
accepted are accepted again wherever the same are in effect (`Accepted.exists_again`).
-/

namespace MemberDocs.Generation

variable {journal : Journal} {directory : Location} {settings : Settings} {documentation : Path}

/-- The options of the front matter of a documentation path, if it has any. -/
def frontMatterOptions (volume : Volume) (directory : Location) (documentation : Path) :
    Except Failure (Option FrontMatter.Options) :=
  match FrontMatter.findBlock volume directory documentation with
  | .error fault => .error (.file fault)
  | .ok none => .ok none
  | .ok (some (_, block)) =>
    match FrontMatter.Options.ofText block.content with
    | .error error => .error (.frontMatter error)
    | .ok (options, _) => .ok (some options)

/-- The settings with the front matter of a documentation path in effect. -/
def effectiveSettings (volume : Volume) (directory : Location) (documentation : Path)
    (settings : Settings) : Except Failure Settings :=
  (frontMatterOptions volume directory documentation).map (·.elim settings settings.override)

/-- What comes of front matter is read off the volume. -/
theorem snd_applyFrontMatter (journal : Journal) (directory : Location) (documentation : Path)
    (settings : Settings) :
    (applyFrontMatter journal directory documentation settings).2 =
      effectiveSettings journal.volume directory documentation settings := by
  unfold applyFrontMatter effectiveSettings frontMatterOptions
  cases FrontMatter.findBlock journal.volume directory documentation with
  | error fault => rfl
  | ok found =>
    cases found with
    | none => rfl
    | some entry =>
      obtain ⟨path, block⟩ := entry
      cases parsed : FrontMatter.Options.ofText block.content with
      | error error => simp [readOptions, parsed, Except.map]
      | ok read =>
        simp only [readOptions, parsed]
        cases read.2.isEmpty <;> rfl

/-- Without a log file, front matter is applied without a change to the volume. -/
theorem volume_applyFrontMatter (unlogged : journal.logFile = none) :
    (applyFrontMatter journal directory documentation settings).1.volume = journal.volume ∧
      (applyFrontMatter journal directory documentation settings).1.logFile = none := by
  unfold applyFrontMatter
  cases FrontMatter.findBlock journal.volume directory documentation with
  | error fault => exact ⟨rfl, unlogged⟩
  | ok found =>
    cases found with
    | none => exact ⟨Journal.volume_note _ unlogged, unlogged⟩
    | some entry =>
      cases parsed : FrontMatter.Options.ofText entry.2.content with
      | error error => simp [readOptions, parsed, unlogged]
      | ok read =>
        cases quiet : read.2.isEmpty <;>
          simp [readOptions, parsed, quiet, Journal.volume_note, Journal.logFile_note, unlogged]

namespace Accepted

variable (stages : Accepted journal directory settings)

theorem effective_documentation : stages.effective.documentation = some stages.documentation :=
  (paths_of_applyFrontMatter stages.applied).2.1.trans stages.documented

theorem effectiveSettings_eq (unlogged : journal.logFile = none) :
    effectiveSettings journal.volume directory stages.documentation settings =
      .ok stages.effective := by
  have outcome := snd_applyFrontMatter (journal.note (startRecord settings)) directory
    stages.documentation settings
  rw [stages.applied, Journal.volume_note _ unlogged] at outcome
  exact outcome.symm

end Accepted

/-- Settings with the same front matter in effect are accepted once more, if the documentation path
is still that of a file, or still not. -/
theorem Accepted.exists_again (stages : Accepted journal directory settings) {again : Journal}
    (unlogged : again.logFile = none)
    (inEffect : effectiveSettings again.volume directory stages.documentation settings =
      .ok stages.effective)
    (kind : again.volume.isFile directory stages.documentation =
      stages.prepared.volume.isFile directory stages.documentation) :
    ∃ later : Accepted again directory settings, later.documentation = stages.documentation ∧
      later.effective = stages.effective ∧ later.prepared.volume = again.volume ∧
      later.prepared.logFile = none ∧ later.output = stages.output := by
  have starts : (again.note (startRecord settings)).logFile = none := unlogged
  obtain ⟨volume, logFile⟩ := @volume_applyFrontMatter _ directory settings stages.documentation starts
  rw [Journal.volume_note _ unlogged] at volume
  have outcome := snd_applyFrontMatter (again.note (startRecord settings)) directory
    stages.documentation settings
  rw [Journal.volume_note _ unlogged, inEffect] at outcome
  have acceptedAgain : stages.effective.outputProblem?
      (applyFrontMatter (again.note (startRecord settings)) directory stages.documentation
        settings).1.volume directory = none := by
    have accepted := stages.acceptedAgain
    simp only [Settings.outputProblem?, Settings.documentationIsFile,
      stages.effective_documentation, volume, kind] at accepted ⊢
    exact accepted
  refine ⟨⟨stages.documentation, stages.effective, _, stages.accepted, stages.documented,
    Prod.ext rfl outcome, acceptedAgain⟩, rfl, rfl, volume, logFile, ?_⟩
  unfold Accepted.output
  rw [volume, kind]

end MemberDocs.Generation
