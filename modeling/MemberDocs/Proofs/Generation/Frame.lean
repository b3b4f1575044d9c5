import MemberDocs.Proofs.Generation.EffectiveSettings
import MemberDocs.Proofs.Generation.Sequence
import MemberDocs.Proofs.Volume.Names
import Mathlib.Logic.Relation

/-! # What a run leaves alone

Whatever comes of a run, it goes on in steps (`steps_run`): it tells records, it writes the files that
its inputs are generated into and the file that it merges into, and it makes directories on the way to
these. It leaves everything else as it is (`run_keeps_to_its_outputs`). What the steps may write and
make is a matter of the stages of the run, up to the point where it stops; what comes of steps is
settled for all of them at once (`Journal.Steps.keepsTo`).
-/

namespace MemberDocs.Generation

namespace Journal

/-- One journal goes on to another one by writing files at the `written` locations, by making
directories at the `opened` ones, and by notes. -/
structure KeepsTo (written opened : Location → Prop) (before after : Journal) : Prop where
  writes : Writes written before after
  opens : Volume.Opens opened before.volume after.volume

/-- A step of a run: a record is told, or files at the `written` locations are written and directories
at the `opened` ones are made. -/
inductive Step (written opened : Location → Prop) (before : Journal) : Journal → Prop where
  | tells (record : LogRecord) : Step written opened before (before.note record)
  | changes {volume : Volume} (evolves : Volume.Evolves written written before.volume volume)
      (opens : Volume.Opens opened before.volume volume) :
      Step written opened before { before with volume }

/-- One journal goes on to another one by any number of steps. -/
def Steps (written opened : Location → Prop) : Journal → Journal → Prop :=
  Relation.ReflTransGen (Step written opened)

theorem Step.mono {written opened moreWritten moreOpened : Location → Prop} {before after : Journal}
    (step : Step written opened before after)
    (writes : ∀ location, written location → moreWritten location)
    (opens : ∀ location, opened location → moreOpened location) :
    Step moreWritten moreOpened before after := by
  cases step with
  | tells record => exact .tells record
  | changes evolves opened => exact .changes (evolves.mono writes writes) (opened.mono opens)

namespace Steps

variable {written opened moreWritten moreOpened : Location → Prop} {first second third : Journal}

theorem refl (written opened : Location → Prop) (journal : Journal) :
    Steps written opened journal journal :=
  Relation.ReflTransGen.refl

theorem mono (steps : Steps written opened first second)
    (writes : ∀ location, written location → moreWritten location)
    (opens : ∀ location, opened location → moreOpened location) :
    Steps moreWritten moreOpened first second :=
  Relation.ReflTransGen.mono (fun _ _ step => Step.mono step writes opens) _ _ steps

theorem trans (before : Steps written opened first second)
    (after : Steps written opened second third) : Steps written opened first third :=
  Relation.ReflTransGen.trans before after

theorem of_changes {journal : Journal} {volume : Volume}
    (evolves : Volume.Evolves written written journal.volume volume)
    (opens : Volume.Opens opened journal.volume volume) :
    Steps written opened journal { journal with volume } :=
  Relation.ReflTransGen.single (.changes evolves opens)

theorem of_note (journal : Journal) (record : LogRecord) :
    Steps written opened journal (journal.note record) :=
  Relation.ReflTransGen.single (.tells record)

theorem of_notes (journal : Journal) (records : List LogRecord) :
    Steps written opened journal (journal.notes records) := by
  induction records generalizing journal with
  | nil => exact .refl _ _ journal
  | cons record rest ih => exact (of_note journal record).trans (ih (journal.note record))

theorem keepsTo (steps : Steps written opened first second)
    (wellFormed : first.volume.WellFormed) : KeepsTo written opened first second := by
  induction steps with
  | refl => exact ⟨.refl _ _, .refl _ _⟩
  | tail _ step ih =>
    refine ⟨ih.writes.trans ?_, ih.opens.trans ?_⟩
    · cases step with
      | tells record =>
        exact (writes_note (ih.writes.volume.wellFormed wellFormed) record).mono fun _ => False.elim
      | changes evolves opens => exact writes_of_evolves evolves
    · cases step with
      | tells record => exact (opens_note _ record).mono fun _ => False.elim
      | changes evolves opens => exact opens

theorem wellFormedAt (steps : Steps written opened first second) {directory : Location}
    (sound : first.volume.WellFormedAt directory) : second.volume.WellFormedAt directory :=
  (steps.keepsTo sound.wellFormed).writes.wellFormedAt sound

end Steps

end Journal

variable {journal : Journal} {directory : Location} {settings : Settings}

/-! ## The steps of a run -/

/-- Making directories on the way of a path. -/
theorem steps_ensureDirectories {written : Location → Prop}
    (sound : journal.volume.WellFormedAt directory) (path : Path) :
    Journal.Steps written (Volume.OnTheWay directory path) journal
      { journal with volume := (journal.volume.ensureDirectories directory path).1 } :=
  .of_changes ((Volume.evolves_ensureDirectories sound path).mono
    (fun _ => False.elim) fun _ => False.elim)
    (Volume.opens_ensureDirectories journal.volume directory path)

theorem steps_makeDocumentation {written : Location → Prop}
    (sound : journal.volume.WellFormedAt directory) (documentation : Path) :
    Journal.Steps written (Volume.OnTheWay directory documentation) journal
      { journal with volume := (makeDocumentation journal.volume directory documentation).1 } := by
  unfold makeDocumentation
  split
  next => exact .refl _ _ journal
  next => exact steps_ensureDirectories sound documentation

theorem steps_of_write {opened : Location → Prop} {path : Path} {content : List UInt8}
    {volume : Volume} (sound : journal.volume.WellFormedAt directory)
    (written : journal.volume.write directory path content = .ok volume) :
    Journal.Steps (· = path.resolve directory) opened journal { journal with volume } :=
  .of_changes (Volume.evolves_of_write sound written).1
    ((Volume.opens_of_write written).mono fun _ => False.elim)

section Inputs

variable {policy : TagPolicy} {output : Path → Path}

theorem Completes.steps {before after : Journal} {source : Path} {completion : Completion}
    (sound : before.volume.WellFormedAt directory)
    (step : Completes directory policy output before source completion after) :
    Journal.Steps (· = (output source).resolve directory) (fun _ => False) before after := by
  cases step with
  | generated read converted written =>
    have writes := @steps_of_write _ _ (fun _ => False) _ _ _ sound written
    exact writes.trans (.of_note _ _)
  | skipped read converted allowed => exact .of_note _ _

/-- The inputs, as far as they are worked through. -/
theorem Works.steps {first last : Journal} {worked : List (Path × Completion)}
    (works : Works directory policy output first worked last)
    (sound : first.volume.WellFormedAt directory) :
    Journal.Steps (fun location => ∃ source ∈ worked.map Prod.fst,
      location = (output source).resolve directory) (fun _ => False) first last := by
  induction works with
  | nil => exact .refl _ _ _
  | cons step others ih =>
    have keeps := step.steps sound
    refine (keeps.mono (fun location here => ?_) fun _ => id).trans
      ((ih (keeps.wellFormedAt sound)).mono (fun location there => ?_) fun _ => id)
    · exact ⟨_, List.mem_cons_self, here⟩
    · obtain ⟨source, among, here⟩ := there
      exact ⟨source, List.mem_cons_of_mem _ among, here⟩

end Inputs

/-- Writing a merged file, whether or not it comes to be written. -/
theorem steps_writeMerged (sound : journal.volume.WellFormedAt directory) (sources : List Path)
    (output : Path) :
    Journal.Steps (· = output.resolve directory) (Volume.OnTheWay directory output.parent) journal
      { journal with
        volume := (Collection.writeMerged journal.volume directory sources output).1 } := by
  have ensures := @steps_ensureDirectories _ _ (· = output.resolve directory) sound output.parent
  unfold Collection.writeMerged
  split
  next => exact .refl _ _ journal
  next =>
    split
    next made fault ensured => rwa [ensured] at ensures
    next made ensured =>
      rw [ensured] at ensures
      split
      next => exact ensures
      next written done => exact ensures.trans (steps_of_write (ensures.wellFormedAt sound) done)

theorem steps_merge (sound : journal.volume.WellFormedAt directory) (documentation : Path)
    (generated : List Path) (output : Path) :
    Journal.Steps (· = output.resolve directory) (Volume.OnTheWay directory output.parent) journal
      (Collection.merge journal directory documentation generated output).1 := by
  unfold Collection.merge
  split
  next => exact .refl _ _ _
  next existing found =>
    have notes := @Journal.Steps.of_note (· = output.resolve directory)
      (Volume.OnTheWay directory output.parent) journal
      (Collection.mergeRecord existing generated output)
    exact notes.trans (steps_writeMerged (notes.wellFormedAt sound) _ _)

/-- The merge that a run ends with, if it is to merge. -/
theorem steps_mergeGenerated {progress : Progress} {documentation : Path}
    (sound : progress.journal.volume.WellFormedAt directory) :
    Journal.Steps
      (fun location => ∃ output, settings.mergesFiles ∧ settings.output = some output ∧
        location = output.resolve directory)
      (fun location => ∃ output, settings.mergesFiles ∧ settings.output = some output ∧
        Volume.OnTheWay directory output.parent location)
      progress.journal (mergeGenerated directory settings documentation progress).1 := by
  unfold mergeGenerated
  split
  next output merges named =>
    have merging := (steps_merge sound documentation progress.generated output).mono
      (fun location here => (⟨output, merges, named, here⟩ : ∃ output, settings.mergesFiles ∧
        settings.output = some output ∧ location = output.resolve directory))
      (fun location here => (⟨output, merges, named, here⟩ : ∃ output, settings.mergesFiles ∧
        settings.output = some output ∧ Volume.OnTheWay directory output.parent location))
    split
    next failed => rwa [failed] at merging
    next done =>
      rw [done] at merging
      exact merging.trans (.of_note _ _)
  next => exact .refl _ _ _

theorem steps_failWith {written opened : Location → Prop} (journal : Journal)
    (started : RunResult) (failure : Failure) :
    Journal.Steps written opened journal (failWith journal started failure).1 := by
  unfold failWith
  split
  next => exact .refl _ _ _
  next => exact .of_note _ _

/-! ## The run -/

/-- Where a run may write: the files that are named after its inputs, in the documentation path, or
the documentation path itself if it has been that of a file, and the file that it merges to if the
settings with front matter in effect have it merge. -/
inductive MayWrite (journal : Journal) (directory : Location) (settings : Settings) :
    Location → Prop where
  | generated {documentation source : Path}
      (documented : settings.documentation = some documentation) (among : source ∈ settings.inputs)
      (apart : journal.volume.isFile directory documentation = false) :
      MayWrite journal directory settings
        ((documentation.child (source.stem ++ ".md")).resolve directory)
  | documentation {documentation : Path}
      (documented : settings.documentation = some documentation)
      (isFile : journal.volume.isFile directory documentation) :
      MayWrite journal directory settings (documentation.resolve directory)
  | merged {documentation output : Path} {effective : Settings}
      (documented : settings.documentation = some documentation)
      (inEffect : effectiveSettings (journal.note (startRecord settings)).volume directory
        documentation settings = .ok effective)
      (merges : effective.mergesFiles) (named : settings.output = some output) :
      MayWrite journal directory settings (output.resolve directory)

/-- Where a run may make a directory: on the way to the documentation path, and on the way to the
directory of the file that it merges to. -/
inductive MayOpen (journal : Journal) (directory : Location) (settings : Settings) :
    Location → Prop where
  | documentation {documentation : Path} {location : Location}
      (documented : settings.documentation = some documentation)
      (onTheWay : Volume.OnTheWay directory documentation location) :
      MayOpen journal directory settings location
  | merged {documentation output : Path} {effective : Settings} {location : Location}
      (documented : settings.documentation = some documentation)
      (inEffect : effectiveSettings (journal.note (startRecord settings)).volume directory
        documentation settings = .ok effective)
      (merges : effective.mergesFiles) (named : settings.output = some output)
      (onTheWay : Volume.OnTheWay directory output.parent location) :
      MayOpen journal directory settings location

namespace Accepted

variable (stages : Accepted journal directory settings)

/-- Nothing that comes before generation makes the documentation path that of a file. -/
theorem isFile_prepared (wellFormed : journal.volume.WellFormed) :
    stages.prepared.volume.isFile directory stages.documentation =
      journal.volume.isFile directory stages.documentation := by
  obtain ⟨records, noted⟩ := stages.exists_notes
  rw [noted]
  exact (Journal.writes_notes wellFormed records).volume.isFile_eq (journal.opens_notes records)
    wellFormed directory stages.documentation

theorem mayWrite_output (wellFormed : journal.volume.WellFormed) {source : Path}
    (among : source ∈ settings.inputs) :
    MayWrite journal directory settings ((stages.output source).resolve directory) := by
  rw [output, stages.isFile_prepared wellFormed]
  unfold outputPath
  cases isFile : journal.volume.isFile directory stages.documentation with
  | true => exact .documentation stages.documented isFile
  | false => exact .generated stages.documented among isFile

theorem inEffect : effectiveSettings (journal.note (startRecord settings)).volume directory
    stages.documentation settings = .ok stages.effective := by
  rw [← snd_applyFrontMatter, stages.applied]

variable (sound : journal.volume.WellFormedAt directory)

include sound

theorem steps_ready : Journal.Steps (MayWrite journal directory settings)
    (MayOpen journal directory settings) journal stages.ready := by
  obtain ⟨records, noted⟩ := stages.exists_notes
  have notes : Journal.Steps (MayWrite journal directory settings)
      (MayOpen journal directory settings) journal stages.prepared :=
    noted ▸ .of_notes journal records
  refine notes.trans ((steps_makeDocumentation (notes.wellFormedAt sound) _).mono
    (fun _ => id) fun location onTheWay => ?_)
  exact .documentation stages.documented onTheWay

theorem steps_works {worked : List (Path × Completion)} {reached : Journal}
    (works : Works directory stages.effective.policy stages.output stages.ready worked reached)
    (inputs : worked.map Prod.fst <+: settings.inputs) :
    Journal.Steps (MayWrite journal directory settings) (MayOpen journal directory settings)
      journal reached := by
  have prepares := stages.steps_ready sound
  refine prepares.trans ((works.steps (prepares.wellFormedAt sound)).mono ?_ fun _ => False.elim)
  rintro location ⟨source, among, rfl⟩
  exact stages.mayWrite_output sound.wellFormed (inputs.subset among)

theorem steps_merge {worked : List (Path × Completion)} {reached after : Journal}
    {outcome : Except Failure (Option Path)}
    (works : Works directory stages.effective.policy stages.output stages.ready worked reached)
    (inputs : settings.inputs = worked.map Prod.fst)
    (merging : mergeGenerated directory stages.effective stages.documentation
      (stages.progress worked reached) = (after, outcome)) :
    Journal.Steps (MayWrite journal directory settings) (MayOpen journal directory settings)
      journal after := by
  have generates := stages.steps_works sound works (inputs ▸ List.prefix_rfl)
  have merges := @steps_mergeGenerated directory stages.effective (stages.progress worked reached)
    stages.documentation (generates.wellFormedAt sound)
  rw [merging] at merges
  refine generates.trans (merges.mono ?_ ?_)
  · rintro location ⟨output, merges, named, rfl⟩
    exact .merged stages.documented stages.inEffect merges (stages.effective_output ▸ named)
  · rintro location ⟨output, merges, named, onTheWay⟩
    exact .merged stages.documented stages.inEffect merges (stages.effective_output ▸ named) onTheWay

/-- What stops a run comes after steps that keep to the outputs. -/
theorem steps_stops {worked : List (Path × Completion)} {reached after : Journal}
    {failure : Failure} (stops : stages.Stops worked reached after failure) :
    Journal.Steps (MayWrite journal directory settings) (MayOpen journal directory settings)
      journal after := by
  cases stops with
  | notMade unmade => exact stages.steps_ready sound
  | stopped made works inputs fails =>
    exact stages.steps_works sound works ⟨_, inputs.symm⟩
  | notMerged made works inputs failed => exact stages.steps_merge sound works inputs failed

end Accepted

theorem steps_run (sound : journal.volume.WellFormedAt directory) :
    Journal.Steps (MayWrite journal directory settings) (MayOpen journal directory settings)
      journal (run journal directory settings).1 := by
  rcases stops_or_accepted journal directory settings with
    ⟨stopped, refused, error, stops, same⟩ |
      ⟨documentation, prepared, failure, -, -, applied, -, same⟩ | ⟨⟨stages⟩⟩
  · obtain ⟨records, rfl⟩ := stops.exists_notes
    rw [same, stopAt, ← Journal.notes_concat]
    exact .of_notes journal _
  · obtain ⟨records, rfl⟩ := exists_notes_of_applyFrontMatter applied
    rw [same]
    exact .of_notes journal (startRecord settings :: records)
  · rcases stages.succeeds_or_stops with
      ⟨worked, reached, after, merged, made, works, inputs, done⟩ |
        ⟨worked, reached, after, failure, stops⟩
    · rw [stages.run_of_works made works inputs done]
      exact stages.steps_merge sound works inputs done
    · rw [stages.run_of_stops stops]
      exact (stages.steps_stops sound stops).trans (steps_failWith _ _ _)

theorem keepsTo_run (sound : journal.volume.WellFormedAt directory) :
    Journal.KeepsTo (MayWrite journal directory settings) (MayOpen journal directory settings)
      journal (run journal directory settings).1 :=
  (steps_run sound).keepsTo sound.wellFormed

/-- Whatever comes of a run, only the files that it may write are other files afterwards, or there at
all, apart from what its log file holds. Nothing is deleted, a directory stays one and a file stays
one, and the new directories are those that it may make. The files that are named after inputs are in
the documentation path itself, however the inputs are written. -/
theorem run_keeps_to_its_outputs (sound : journal.volume.WellFormedAt directory) :
    let final := (run journal directory settings).1.volume
    (∀ location content, ¬ MayWrite journal directory settings location →
      ¬ journal.LogsTo location →
        (final.get? location = some (.file content) ↔
          journal.volume.get? location = some (.file content))) ∧
    (∀ location, ¬ MayWrite journal directory settings location →
      ((∃ content, final.get? location = some (.file content)) ↔
        ∃ content, journal.volume.get? location = some (.file content))) ∧
    (∀ location content, journal.volume.get? location = some (.file content) →
      ∃ later, final.get? location = some (.file later)) ∧
    (∀ location, journal.volume.get? location = some .directory →
      final.get? location = some .directory) ∧
    (∀ location, final.get? location = some .directory →
      journal.volume.get? location = some .directory ∨
        MayOpen journal directory settings location) ∧
    (∀ (documentation source : Path),
      (documentation.child (source.stem ++ ".md")).resolve directory =
        documentation.resolve directory ++ [source.stem ++ ".md"]) ∧
    ∀ (documentation : Path) (text : String),
      documentation.join (.ofString ((Path.ofString text).stem ++ ".md")) =
        documentation.child ((Path.ofString text).stem ++ ".md") := by
  intro final
  have keeps := @keepsTo_run journal directory settings sound
  exact ⟨fun location content apart quiet =>
      ⟨keeps.writes.get?_of_not_written apart quiet, keeps.writes.get?_of_apart apart quiet⟩,
    fun location => keeps.writes.volume.exists_file_iff, keeps.writes.volume.files,
    keeps.writes.volume.directories, keeps.opens,
    fun documentation source => Path.resolve_suffixed documentation source.stem directory,
    Path.join_suffixed_stem⟩

/-- A working directory with a documentation directory, and a file beside the input above it. -/
def nestedVolume : Volume :=
  ⟨[(["work"], .directory), (["work", "docs"], .directory),
    (["api.md"], .file (Text.encodeUtf8 "Keep me")), (["api.xml"], .file (Text.encodeUtf8 "<doc/>"))]⟩

/-- The input leads out of the working directory. -/
def nestedSettings : Settings :=
  { inputs := [.ofString "../api.xml"], documentation := some (.ofString "docs") }

theorem input_from_above_is_generated_below :
    (run { volume := nestedVolume } ["work"] nestedSettings).1.volume.get? ["api.md"] =
      some (.file (Text.encodeUtf8 "Keep me")) := by
  have sound : nestedVolume.WellFormedAt ["work"] := ⟨⟨by decide, by decide, by decide⟩, rfl⟩
  have frame := @run_keeps_to_its_outputs { volume := nestedVolume } _ nestedSettings sound
  refine (frame.1 _ _ ?_ (Journal.not_logsTo rfl _)).mpr rfl
  generalize same : ["api.md"] = location
  intro allowed
  cases allowed with
  | generated documented among apart =>
    obtain rfl := Option.some.inj documented
    obtain rfl := List.mem_singleton.mp among
    exact absurd same (by decide)
  | documentation documented isFile =>
    obtain rfl := Option.some.inj documented
    exact absurd same (by decide)
  | merged documented inEffect merges named => cases named

end MemberDocs.Generation
