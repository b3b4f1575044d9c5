import MemberDocs.Proofs.Generation.EffectiveSettings
import MemberDocs.Proofs.Generation.Sequence

/-! # Refused settings

Settings can be refused for what they lack, for the front matter that is looked up under them, and for
what they come to with it in effect (`Refusal`). A run that ends without success and without a
failure has been refused, for the first of the reasons that hold, and has done nothing
(`refused_runs_change_nothing`).
-/

namespace MemberDocs.Generation

/-- Why a run is refused. -/
inductive Refusal where
  | problem (problem : Problem)
  | frontMatter (error : FrontMatter.OptionsError)

namespace Refusal

def message : Refusal → String
  | .problem reason => reason.message
  | .frontMatter error => error.message

/-- The place of a reason in the order in which the reasons count. -/
def rank : Refusal → Nat
  | .problem .noDocumentation => 0
  | .problem .noInputs => 1
  | .frontMatter _ => 2
  | .problem .noOutput => 3
  | .problem .severalInputs => 4

/-- A reason holds of settings, whatever other reasons there are. -/
inductive Holds (volume : Volume) (directory : Location) (settings : Settings) : Refusal → Prop where
  | noDocumentation (undocumented : settings.documentation = none) :
      Holds volume directory settings (.problem .noDocumentation)
  | noInputs (empty : settings.inputs = []) :
      Holds volume directory settings (.problem .noInputs)
  /-- The first front matter that is not empty is not YAML, or no mapping. -/
  | frontMatter {documentation path : Path} {block : FrontMatter.Block}
      {error : FrontMatter.OptionsError} (documented : settings.documentation = some documentation)
      (found : FrontMatter.findBlock volume directory documentation = .ok (some (path, block)))
      (refused : FrontMatter.Options.ofText block.content = .error error)
      (reported : (Failure.frontMatter error).kind = .content) :
      Holds volume directory settings (.frontMatter error)
  /-- With front matter in effect, the files are merged, and there is nothing to merge them into. -/
  | noOutput {documentation : Path} {effective : Settings}
      (documented : settings.documentation = some documentation)
      (inEffect : effectiveSettings volume directory documentation settings = .ok effective)
      (merges : effective.mergesFiles) (unnamed : settings.output = none) :
      Holds volume directory settings (.problem .noOutput)
  | severalInputs {documentation : Path} (documented : settings.documentation = some documentation)
      (isFile : volume.isFile directory documentation) (several : settings.inputs.length ≠ 1) :
      Holds volume directory settings (.problem .severalInputs)

/-- The reason holds, and none that counts before it does. -/
def IsFirst (volume : Volume) (directory : Location) (settings : Settings)
    (refusal : Refusal) : Prop :=
  refusal.Holds volume directory settings ∧
    ∀ other : Refusal, other.Holds volume directory settings → refusal.rank ≤ other.rank

end Refusal

variable {journal : Journal} {directory : Location} {settings : Settings} {volume : Volume}

/-! ## Reasons by stages -/

theorem inputProblem?_eq_none_iff :
    settings.inputProblem? = none ↔ settings.documentation ≠ none ∧ settings.inputs ≠ [] := by
  unfold Settings.inputProblem?
  cases settings.documentation <;> cases settings.inputs <;> simp

/-- Front matter is refused exactly if it is found and cannot be read. -/
theorem effectiveSettings_eq_error_iff {documentation : Path} {failure : Failure}
    (kind : failure.kind = .content) :
    effectiveSettings volume directory documentation settings = .error failure ↔
      ∃ path block error, FrontMatter.findBlock volume directory documentation =
          .ok (some (path, block)) ∧
        FrontMatter.Options.ofText block.content = .error error ∧ failure = .frontMatter error := by
  unfold effectiveSettings frontMatterOptions
  cases found : FrontMatter.findBlock volume directory documentation with
  | error fault =>
    have other : Failure.file fault ≠ failure := by
      rintro rfl
      cases fault <;> cases kind
    simpa [Except.map] using other
  | ok entry =>
    cases entry with
    | none => simp [Except.map]
    | some entry =>
      cases parsed : FrontMatter.Options.ofText entry.2.content with
      | error error => simp [parsed, Except.map, Prod.ext_iff, eq_comm]
      | ok read => simp [parsed, Except.map, Prod.ext_iff]

/-- After the first check, only the reasons of the later stages are left. -/
theorem Refusal.Holds.two_le_rank (accepted : settings.inputProblem? = none) {refusal : Refusal}
    (holds : refusal.Holds volume directory settings) : 2 ≤ refusal.rank := by
  obtain ⟨documented, inputs⟩ := inputProblem?_eq_none_iff.mp accepted
  cases holds with
  | noDocumentation undocumented => exact absurd undocumented documented
  | noInputs empty => exact absurd empty inputs
  | frontMatter | noOutput | severalInputs => simp [rank]

section InEffect

variable {documentation : Path} {effective : Settings}
  (documented : settings.documentation = some documentation)
  (inEffect : effectiveSettings volume directory documentation settings = .ok effective)

include documented inEffect

/-- Once front matter is in effect, only the reasons of the last check are left. -/
theorem Refusal.Holds.eq_of_inEffect (accepted : settings.inputProblem? = none) {refusal : Refusal}
    (holds : refusal.Holds volume directory settings) :
    refusal = .problem .noOutput ∨ refusal = .problem .severalInputs := by
  have later := holds.two_le_rank accepted
  cases holds with
  | noDocumentation | noInputs => simp [rank] at later
  | frontMatter documented' found refused reported =>
    obtain rfl := Option.some.inj (documented.symm.trans documented')
    have failed : effectiveSettings volume directory documentation settings = .error _ :=
      (effectiveSettings_eq_error_iff reported).mpr ⟨_, _, _, found, refused, rfl⟩
    cases inEffect.symm.trans failed
  | noOutput => exact Or.inl rfl
  | severalInputs => exact Or.inr rfl

theorem noOutput_holds_iff :
    (Refusal.problem .noOutput).Holds volume directory settings ↔
      effective.mergesFiles ∧ settings.output = none := by
  constructor
  · intro holds
    cases holds with
    | noOutput documented' inEffect' merges unnamed =>
      obtain rfl := Option.some.inj (documented.symm.trans documented')
      obtain rfl := Except.ok.inj (inEffect.symm.trans inEffect')
      exact ⟨merges, unnamed⟩
  · exact fun ⟨merges, unnamed⟩ => .noOutput documented inEffect merges unnamed

omit inEffect in
theorem severalInputs_holds_iff :
    (Refusal.problem .severalInputs).Holds volume directory settings ↔
      volume.isFile directory documentation ∧ settings.inputs.length ≠ 1 := by
  constructor
  · intro holds
    cases holds with
    | severalInputs documented' isFile several =>
      obtain rfl := Option.some.inj (documented.symm.trans documented')
      exact ⟨isFile, several⟩
  · exact fun ⟨isFile, several⟩ => .severalInputs documented isFile several

/-- What the last check finds is the first reason, and if it finds nothing there is none. -/
theorem refusal_of_outputProblem? (accepted : settings.inputProblem? = none)
    (kept : effective.inputs = settings.inputs ∧
      effective.documentation = settings.documentation ∧ effective.output = settings.output) :
    match effective.outputProblem? volume directory with
    | some problem => (Refusal.problem problem).IsFirst volume directory settings
    | none => ∀ refusal : Refusal, ¬ refusal.Holds volume directory settings := by
  obtain ⟨inputs, sameDocumentation, output⟩ := kept
  have merging := noOutput_holds_iff documented inEffect
  have several := @severalInputs_holds_iff directory settings volume documentation documented
  have last {refusal : Refusal} (holds : refusal.Holds volume directory settings) :=
    holds.eq_of_inEffect documented inEffect accepted
  simp only [Settings.outputProblem?, Settings.documentationIsFile, sameDocumentation, documented,
    inputs, output, Bool.and_eq_true, Option.isNone_iff_eq_none, decide_eq_true_eq]
  by_cases merges : effective.mergesFiles ∧ settings.output = none
  · rw [if_pos merges]
    refine ⟨merging.mpr merges, fun other holds => ?_⟩
    rcases last holds with rfl | rfl <;> simp [Refusal.rank]
  · rw [if_neg merges]
    by_cases both : volume.isFile directory documentation ∧ settings.inputs.length ≠ 1
    · rw [if_pos both]
      refine ⟨several.mpr both, fun other holds => ?_⟩
      rcases last holds with rfl | rfl
      · exact absurd (merging.mp holds) merges
      · exact Nat.le_refl _
    · rw [if_neg both]
      intro refusal holds
      rcases last holds with rfl | rfl
      · exact merges (merging.mp holds)
      · exact both (several.mp holds)

end InEffect

/-! ## Reasons and runs -/

/-- What the last check finds is found on the volume that front matter is looked up on. -/
theorem outputProblem?_of_applyFrontMatter {before prepared : Journal} {documentation : Path}
    {effective : Settings} (wellFormed : before.volume.WellFormed)
    (applied : applyFrontMatter before directory documentation settings =
      (prepared, .ok effective)) :
    effective.outputProblem? prepared.volume directory =
      effective.outputProblem? before.volume directory := by
  obtain ⟨records, rfl⟩ := exists_notes_of_applyFrontMatter applied
  have same := (Journal.writes_notes wellFormed records).volume.isFile_eq
    (before.opens_notes records) wellFormed directory
  unfold Settings.outputProblem? Settings.documentationIsFile
  cases effective.documentation <;> simp [same]

/-- The reason that refuses settings is the first one. -/
theorem Refused.exists_first (wellFormed : journal.volume.WellFormed) {stopped : Journal}
    {refused : Settings} {error : String}
    (stops : Refused journal directory settings stopped refused error) :
    ∃ refusal : Refusal, error = refusal.message ∧
      refusal.IsFirst (journal.note (startRecord settings)).volume directory settings := by
  cases stops with
  | @input problem found =>
    refine ⟨.problem problem, rfl, ?_⟩
    unfold Settings.inputProblem? at found
    split at found
    next undocumented =>
      obtain rfl := Option.some.inj found
      exact ⟨.noDocumentation (by simpa using undocumented), fun _ _ => Nat.zero_le _⟩
    next documented =>
      split at found
      next empty =>
        obtain rfl := Option.some.inj found
        refine ⟨.noInputs (by simpa using empty), fun other holds => ?_⟩
        cases holds with
        | noDocumentation undocumented => simp [undocumented] at documented
        | noInputs | frontMatter | noOutput | severalInputs => simp [Refusal.rank]
      next => cases found
  | @frontMatter documentation _ failure accepted documented applied kind =>
    have failed := snd_applyFrontMatter (journal.note (startRecord settings)) directory
      documentation settings
    rw [applied] at failed
    obtain ⟨path, block, reason, found, refused, rfl⟩ :=
      (effectiveSettings_eq_error_iff kind).mp failed.symm
    exact ⟨.frontMatter reason, rfl,
      .frontMatter documented found refused kind, fun _ holds => holds.two_le_rank accepted⟩
  | @output documentation _ _ problem accepted documented applied found =>
    have starts := Journal.writes_note wellFormed (startRecord settings)
    rw [outputProblem?_of_applyFrontMatter (starts.volume.wellFormed wellFormed) applied] at found
    have inEffect := snd_applyFrontMatter (journal.note (startRecord settings)) directory
      documentation settings
    rw [applied] at inEffect
    have first := refusal_of_outputProblem? documented inEffect.symm accepted
      (paths_of_applyFrontMatter applied)
    rw [found] at first
    exact ⟨.problem problem, rfl, first⟩

/-- No reason holds of settings that are accepted. -/
theorem Accepted.not_holds (stages : Accepted journal directory settings)
    (wellFormed : journal.volume.WellFormed) (refusal : Refusal) :
    ¬ refusal.Holds (journal.note (startRecord settings)).volume directory settings := by
  have starts := Journal.writes_note wellFormed (startRecord settings)
  have found := stages.acceptedAgain
  rw [outputProblem?_of_applyFrontMatter (starts.volume.wellFormed wellFormed)
    stages.applied] at found
  have inEffect := snd_applyFrontMatter (journal.note (startRecord settings)) directory
    stages.documentation settings
  rw [stages.applied] at inEffect
  have none := refusal_of_outputProblem? stages.documented inEffect.symm stages.accepted
    (paths_of_applyFrontMatter stages.applied)
  rw [found] at none
  exact none refusal

/-- A run whose settings are accepted succeeds or reports a failure. -/
theorem Accepted.success_or_failure (stages : Accepted journal directory settings)
    {final : Journal} {result : RunResult}
    (ran : run journal directory settings = (final, .ok result)) :
    result.success ∨ result.failure ≠ none := by
  rcases stages.succeeds_or_stops with
    ⟨worked, reached, after, merged, made, works, inputs, done⟩ |
      ⟨worked, reached, after, failure, stops⟩
  · rw [stages.run_of_works made works inputs done] at ran
    obtain rfl := Except.ok.inj (congrArg Prod.snd ran)
    exact Or.inl rfl
  · rw [stages.run_of_stops stops] at ran
    obtain ⟨-, rfl⟩ := eq_of_failWith ran
    exact Or.inr (Option.some_ne_none _)

/-- Of the runs that end with a result, those are refused, without success and without a failure,
for whose settings a reason holds. The first reason is the one that is reported, and nothing has been
done. -/
theorem refused_runs_change_nothing (wellFormed : journal.volume.WellFormed) {final : Journal}
    {result : RunResult} (ran : run journal directory settings = (final, .ok result)) :
    let started := (journal.note (startRecord settings)).volume
    (result.success = false ∧ result.failure = none ↔
      ∃ refusal : Refusal, refusal.Holds started directory settings) ∧
    (result.success = false → result.failure = none →
      (∃ refusal : Refusal, refusal.IsFirst started directory settings ∧
        result.errors = [refusal.message]) ∧
      result.generated = [] ∧ result.warnings = [] ∧ result.merged = none ∧
      (∀ location, ¬ journal.LogsTo location →
        final.volume.get? location = journal.volume.get? location) ∧
      (journal.logFile = none → started = journal.volume ∧ final.volume = journal.volume)) := by
  intro started
  rcases stops_or_accepted journal directory settings with
    ⟨stopped, refused, error, stops, same⟩ | ⟨_, _, _, -, -, -, -, same⟩ | ⟨⟨stages⟩⟩
  · obtain ⟨rfl, ended⟩ := Prod.mk.inj (same.symm.trans ran)
    obtain rfl := Except.ok.inj ended
    obtain ⟨records, rfl⟩ := stops.exists_notes
    obtain ⟨refusal, rfl, first⟩ := stops.exists_first wellFormed
    refine ⟨⟨fun _ => ⟨refusal, first.1⟩, fun _ => ⟨rfl, rfl⟩⟩, fun _ _ =>
      ⟨⟨refusal, first, rfl⟩, rfl, rfl, rfl, fun location quiet => ?_, fun unlogged => ⟨?_, ?_⟩⟩⟩
    · rw [stopAt, ← Journal.notes_concat]
      exact Journal.get?_notes _ quiet
    · exact Journal.volume_note _ unlogged
    · rw [stopAt, ← Journal.notes_concat]
      exact Journal.volume_notes _ unlogged
  · cases congrArg Prod.snd (same.symm.trans ran)
  · have unrefused : ¬ (result.success = false ∧ result.failure = none) := by
      rintro ⟨unfinished, unfailed⟩
      rcases stages.success_or_failure ran with succeeded | failed
      · rw [unfinished] at succeeded
        cases succeeded
      · exact failed unfailed
    refine ⟨⟨fun refused => absurd refused unrefused, fun ⟨refusal, holds⟩ => ?_⟩,
      fun unfinished unfailed => absurd ⟨unfinished, unfailed⟩ unrefused⟩
    exact absurd holds (stages.not_holds wellFormed refusal)

/-- One file, with front matter that has it merged, and an input. -/
def mergingVolume : Volume :=
  ⟨[(["api.xml"], .file (Text.encodeUtf8 "<doc/>")),
    (["book.md"], .file (Text.encodeUtf8 "---\nMergeXmlComments: yes\n---\n"))]⟩

/-- Nothing is said about merging. -/
def plainSettings : Settings :=
  { inputs := [⟨.relative, ["api.xml"]⟩], documentation := some ⟨.relative, ["book.md"]⟩ }

theorem merging_front_matter_is_refused :
    ∃ final result, run { volume := mergingVolume } [] plainSettings = (final, .ok result) ∧
      result.errors = [Problem.noOutput.message] ∧ final.volume = mergingVolume ∧
      ∃ refusal : Refusal, refusal.Holds mergingVolume [] plainSettings := by
  have wellFormed : mergingVolume.WellFormed := ⟨by decide, by decide, by decide⟩
  have evaluated : (run { volume := mergingVolume } [] plainSettings).2.toOption =
      some { settings := { plainSettings with mergesFiles := true }
             errors := [Problem.noOutput.message] } := by
    decide +kernel
  obtain ⟨final, ran, -⟩ := exists_run_of_toOption evaluated
  obtain ⟨refused, effects⟩ := refused_runs_change_nothing wellFormed ran
  obtain ⟨-, -, -, -, -, unchanged⟩ := effects rfl rfl
  exact ⟨final, _, ran, rfl, (unchanged rfl).2, refused.mp ⟨rfl, rfl⟩⟩

end MemberDocs.Generation
