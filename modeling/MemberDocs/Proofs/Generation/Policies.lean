import MemberDocs.Proofs.Generation.EffectiveSettings
import MemberDocs.Proofs.Generation.Sequence

/-! # The two policies

What becomes of tags without a rule is all that two runs can differ in whose settings differ in
nothing else. If front matter says it, or if the strict run is not stopped by such a tag, they are
one run (`Alike`). If the strict run is stopped by a tag, the lenient one does what it did, reports
that very tag and goes on (`lenient_run_follows_strict_run`).
-/

namespace MemberDocs.Generation

/-- The settings under the policy that an input with a tag without a rule stops the run. -/
def Settings.strict (settings : Settings) : Settings := { settings with policy := .error }

/-- The settings under the policy that such an input is skipped. -/
def Settings.lenient (settings : Settings) : Settings := { settings with policy := .warn }

/-- The result with the strict policy in its settings, whatever policy it had. -/
def RunResult.strict (result : RunResult) : RunResult :=
  { result with settings := result.settings.strict }

/-- Front matter says what becomes of tags without a rule. -/
def SetsPolicy (volume : Volume) (directory : Location) (documentation : Path) : Prop :=
  ∃ options tags, frontMatterOptions volume directory documentation = .ok (some options) ∧
    options.allowedTags = some tags

variable {journal : Journal} {directory : Location} {settings : Settings} {documentation : Path}

/-! ## Settings -/

theorem fst_applyFrontMatter_lenient (journal : Journal) (directory : Location)
    (documentation : Path) (settings : Settings) :
    (applyFrontMatter journal directory documentation settings.lenient).1 =
      (applyFrontMatter journal directory documentation settings.strict).1 := by
  unfold applyFrontMatter
  cases FrontMatter.findBlock journal.volume directory documentation with
  | error fault => rfl
  | ok found =>
    cases found with
    | none => rfl
    | some entry =>
      obtain ⟨path, block⟩ := entry
      simp only
      split <;> rfl

/-- Front matter in effect leaves a difference in the policy, or none. -/
theorem effectiveSettings_lenient (volume : Volume) (directory : Location) (documentation : Path)
    (settings : Settings) :
    match effectiveSettings volume directory documentation settings.strict,
      effectiveSettings volume directory documentation settings.lenient with
    | .error failure, .error other => other = failure
    | .ok effective, .ok other =>
      SetsPolicy volume directory documentation ∧ other = effective ∨
        ¬ SetsPolicy volume directory documentation ∧ effective = effective.strict ∧
          other = effective.lenient
    | _, _ => False := by
  unfold effectiveSettings SetsPolicy
  cases frontMatterOptions volume directory documentation with
  | error failure => rfl
  | ok found =>
    cases found with
    | none => exact Or.inr ⟨by simp, rfl, rfl⟩
    | some options =>
      cases set : options.allowedTags with
      | none =>
        refine Or.inr ⟨by simp [set], ?_, ?_⟩ <;>
          simp [Settings.override, Settings.strict, Settings.lenient, set]
      | some tags =>
        refine Or.inl ⟨⟨options, tags, rfl, set⟩, ?_⟩
        simp [Settings.override, Settings.strict, Settings.lenient, set]

theorem applyFrontMatter_lenient_of_error {prepared : Journal} {failure : Failure}
    (applied : applyFrontMatter journal directory documentation settings.strict =
      (prepared, .error failure)) :
    applyFrontMatter journal directory documentation settings.lenient =
      (prepared, .error failure) := by
  have same := effectiveSettings_lenient journal.volume directory documentation settings
  refine Prod.ext ((fst_applyFrontMatter_lenient ..).trans (congrArg Prod.fst applied)) ?_
  rw [← snd_applyFrontMatter, ← snd_applyFrontMatter, applied] at same
  split at same
  next refused other => simp_all
  next inEffect _ => cases inEffect
  next => exact same.elim

theorem applyFrontMatter_lenient_of_ok {prepared : Journal} {effective : Settings}
    (applied : applyFrontMatter journal directory documentation settings.strict =
      (prepared, .ok effective)) :
    ∃ other, applyFrontMatter journal directory documentation settings.lenient =
        (prepared, .ok other) ∧
      (SetsPolicy journal.volume directory documentation ∧ other = effective ∨
        ¬ SetsPolicy journal.volume directory documentation ∧ effective = effective.strict ∧
          other = effective.lenient) := by
  have same := effectiveSettings_lenient journal.volume directory documentation settings
  have noted := (fst_applyFrontMatter_lenient journal directory documentation settings).trans
    (congrArg Prod.fst applied)
  rw [← snd_applyFrontMatter, ← snd_applyFrontMatter, applied] at same
  split at same
  next refused _ => cases refused
  next first other inEffect reached =>
    obtain rfl := Except.ok.inj inEffect
    exact ⟨other, Prod.ext noted reached, same⟩
  next => exact same.elim

/-! ## Inputs -/

section Inputs

variable {output : Path → Path}

theorem Completes.lenient {before after : Journal} {source : Path} {completion : Completion}
    (step : Completes directory .error output before source completion after) :
    Completes directory .warn output before source completion after := by
  cases step with
  | generated read converted written => exact .generated read converted written
  | skipped read converted allowed => cases allowed

/-- What is worked through under the strict policy is so under the other one. -/
theorem Works.lenient {first last : Journal} {worked : List (Path × Completion)}
    (works : Works directory .error output first worked last) :
    Works directory .warn output first worked last := by
  induction works with
  | nil => exact .nil _
  | cons step others ih => exact .cons step.lenient ih

theorem Works.skippedReports_eq_nil {first last : Journal} {worked : List (Path × Completion)}
    (works : Works directory .error output first worked last) : skippedReports worked = [] := by
  induction works with
  | nil => rfl
  | cons step others ih =>
    cases step with
    | generated read converted written => exact ih
    | skipped read converted allowed => cases allowed

/-- An input that stops the strict run stops the other one, or it is skipped there. -/
theorem Fails.lenient {before : Journal} {source : Path} {failure : Failure}
    (fails : Fails directory .error output before source failure) :
    (Fails directory .warn output before source failure ∧
        ∀ report, failure ≠ .unknownTag report) ∨
      ∃ report, failure = .unknownTag report ∧
        Completes directory .warn output before source (.skipped report)
          (before.note (skipRecord report)) := by
  cases fails with
  | notRead unread => exact Or.inl ⟨.notRead unread, by simp⟩
  | notConverted read converted known => exact Or.inl ⟨.notConverted read converted known, by simp⟩
  | notWritten read converted unwritten => exact Or.inl ⟨.notWritten read converted unwritten, by simp⟩
  | unknownTag read converted => exact Or.inr ⟨_, rfl, .skipped read converted rfl⟩

end Inputs

/-! ## Runs -/

/-- Two runs have done and reported the same, but for the policy in the settings of their results. -/
def Alike (strict lenient : Journal × Except Failure RunResult) : Prop :=
  lenient.1 = strict.1 ∧ lenient.2.map RunResult.strict = strict.2.map RunResult.strict

theorem alike_failWith {started other : RunResult} (same : other.strict = started.strict)
    (failure : Failure) :
    Alike (failWith journal started failure) (failWith journal other failure) := by
  unfold failWith
  split
  next => exact ⟨rfl, rfl⟩
  next =>
    refine ⟨rfl, congrArg Except.ok ?_⟩
    exact congrArg (fun result : RunResult =>
      { result with errors := [failure.message], failure := some failure }) same

/-- Settings that are refused under one policy are refused under the other one. -/
theorem Refused.exists_lenient {stopped : Journal} {refused : Settings} {error : String}
    (stops : Refused journal directory settings.strict stopped refused error) :
    ∃ other, Refused journal directory settings.lenient stopped other error ∧
      other.strict = refused.strict := by
  cases stops with
  | input found => exact ⟨_, .input found, rfl⟩
  | frontMatter accepted documented applied kind =>
    exact ⟨_, .frontMatter accepted documented (applyFrontMatter_lenient_of_error applied) kind, rfl⟩
  | output accepted documented applied found =>
    obtain ⟨other, reached, same⟩ := applyFrontMatter_lenient_of_ok applied
    rcases same with ⟨-, rfl⟩ | ⟨-, -, rfl⟩
    · exact ⟨_, .output accepted documented reached found, rfl⟩
    · exact ⟨_, .output accepted documented reached found, rfl⟩

namespace Accepted

/-- The same settings with another policy, and the same done before the inputs. -/
structure Parallel (stages : Accepted journal directory settings.strict)
    (other : Accepted journal directory settings.lenient) : Prop where
  documentation : other.documentation = stages.documentation
  prepared : other.prepared = stages.prepared

/-- Settings that are accepted under one policy are accepted under the other one, and with front
matter in effect they differ in the policy, unless front matter says it. -/
theorem exists_lenient (stages : Accepted journal directory settings.strict) :
    ∃ other : Accepted journal directory settings.lenient, stages.Parallel other ∧
      (SetsPolicy (journal.note (startRecord settings)).volume directory stages.documentation ∧
          other.effective = stages.effective ∨
        ¬ SetsPolicy (journal.note (startRecord settings)).volume directory stages.documentation ∧
          stages.effective = stages.effective.strict ∧
          other.effective = stages.effective.lenient) := by
  obtain ⟨effective, reached, same⟩ := applyFrontMatter_lenient_of_ok stages.applied
  have acceptedAgain : effective.outputProblem? stages.prepared.volume directory = none := by
    rcases same with ⟨-, rfl⟩ | ⟨-, -, rfl⟩ <;> exact stages.acceptedAgain
  exact ⟨⟨stages.documentation, effective, stages.prepared, stages.accepted, stages.documented,
    reached, acceptedAgain⟩, ⟨rfl, rfl⟩, same⟩

variable {stages : Accepted journal directory settings.strict}
  {other : Accepted journal directory settings.lenient}

namespace Parallel

variable (parallel : Parallel stages other)

include parallel

theorem output : other.output = stages.output := by
  rw [Accepted.output, parallel.documentation, parallel.prepared]
  rfl

theorem made : other.made = stages.made := by
  rw [Accepted.made, parallel.documentation, parallel.prepared]
  rfl

theorem ready : other.ready = stages.ready := by
  rw [Accepted.ready, parallel.made, parallel.prepared]
  rfl

theorem alike_of_effective_eq (same : other.effective = stages.effective) :
    Alike (run journal directory settings.strict) (run journal directory settings.lenient) := by
  rw [stages.run_eq, other.run_eq, parallel.documentation, parallel.prepared, same]
  exact ⟨rfl, rfl⟩

variable (leniently : other.effective = stages.effective.lenient)

include leniently

theorem report (worked : List (Path × Completion)) :
    (other.report worked).strict = (stages.report worked).strict := by
  unfold Accepted.report
  rw [leniently, parallel.output]
  rfl

theorem mergeGenerated_eq (worked : List (Path × Completion)) (reached : Journal) :
    mergeGenerated directory other.effective other.documentation (other.progress worked reached) =
      mergeGenerated directory stages.effective stages.documentation
        (stages.progress worked reached) := by
  unfold Accepted.progress
  rw [leniently, parallel.documentation, parallel.output, parallel.ready]
  rfl

variable (strictly : stages.effective = stages.effective.strict)

include strictly

theorem works {worked : List (Path × Completion)} {reached : Journal}
    (works : Works directory stages.effective.policy stages.output stages.ready worked reached) :
    Works directory other.effective.policy other.output other.ready worked reached := by
  rw [strictly] at works
  rw [leniently, parallel.output, parallel.ready]
  exact works.lenient

/-- What stops the strict run stops the other one, unless it is a tag without a rule. -/
theorem stops {worked : List (Path × Completion)} {reached after : Journal}
    {failure : Failure} (stops : stages.Stops worked reached after failure)
    (known : ∀ report, failure ≠ .unknownTag report) :
    other.Stops worked reached after failure := by
  cases stops with
  | notMade unmade =>
    rw [← parallel.ready]
    exact .notMade (parallel.made ▸ unmade)
  | stopped made works inputs fails =>
    refine .stopped (parallel.made ▸ made) (parallel.works leniently strictly works) inputs ?_
    rw [strictly] at fails
    rw [leniently, parallel.output]
    rcases fails.lenient with ⟨fails, -⟩ | ⟨report, same, -⟩
    · exact fails
    · exact absurd same (known report)
  | notMerged made works inputs failed =>
    refine .notMerged (parallel.made ▸ made) (parallel.works leniently strictly works) inputs ?_
    rw [parallel.mergeGenerated_eq leniently]
    exact failed

/-- Without a tag that stops the strict run, the other one is the same. -/
theorem alike (known : ∀ result report,
      (run journal directory settings.strict).2 = .ok result →
        result.failure ≠ some (.unknownTag report)) :
    Alike (run journal directory settings.strict) (run journal directory settings.lenient) := by
  rcases stages.succeeds_or_stops with
    ⟨worked, reached, after, merged, made, works, inputs, done⟩ |
      ⟨worked, reached, after, failure, stops⟩
  · rw [stages.run_of_works made works inputs done,
      other.run_of_works (parallel.made ▸ made) (parallel.works leniently strictly works) inputs
        ((parallel.mergeGenerated_eq leniently worked reached).trans done)]
    refine ⟨rfl, congrArg Except.ok ?_⟩
    exact congrArg (fun result : RunResult => { result with merged, success := true })
      (parallel.report leniently worked)
  · have unreported : ∀ report, failure ≠ .unknownTag report := by
      rintro report rfl
      have ran := congrArg Prod.snd (stages.run_of_stops stops)
      exact known _ report ran rfl
    rw [stages.run_of_stops stops,
      other.run_of_stops (parallel.stops leniently strictly stops unreported)]
    exact alike_failWith (parallel.report leniently worked) failure

/-- After the tag that stops the strict run, the other one goes on. -/
theorem goes_on {result : RunResult} {report : TagReport}
    (ran : (run journal directory settings.strict).2 = .ok result)
    (stopped : result.failure = some (.unknownTag report)) :
    ∃ worked source later reached,
      settings.inputs = worked.map Prod.fst ++ source :: later ∧
      result.generated = generatedPaths other.output worked ∧
      skippedReports worked = [] ∧ other.made.2 = none ∧
      Works directory other.effective.policy other.output other.ready
        (worked ++ [(source, .skipped report)]) reached := by
  rcases stages.succeeds_or_stops with
    ⟨worked, reached, after, merged, made, works, inputs, done⟩ |
      ⟨worked, reached, after, failure, stops⟩
  · rw [stages.run_of_works made works inputs done] at ran
    obtain rfl := Except.ok.inj ran
    cases stopped
  · rw [stages.run_of_stops stops] at ran
    obtain ⟨-, rfl⟩ := eq_of_failWith (Prod.ext rfl ran)
    obtain rfl := Option.some.inj stopped
    cases stops with
    | notMerged made works inputs failed =>
      rcases failure_of_mergeGenerated failed with same | ⟨fault, same⟩ <;> cases same
    | @stopped _ _ source later _ made works inputs fails =>
      have onwards := parallel.works leniently strictly works
      rw [strictly] at fails works
      rcases fails.lenient with ⟨-, known⟩ | ⟨_, same, step⟩
      · exact absurd rfl (known report)
      · obtain rfl := Failure.unknownTag.inj same
        refine ⟨worked, source, later, reached.note (skipRecord report), inputs, ?_,
          works.skippedReports_eq_nil,
          parallel.made ▸ made, onwards.append (.cons ?_ (.nil _))⟩
        · rw [parallel.output]
          rfl
        · rw [leniently, parallel.output]
          exact step

end Parallel

end Accepted

/-- Two runs are the same unless their settings come to differ in the policy, and then they do the
same before the inputs. -/
theorem alike_or_exists_parallel (journal : Journal) (directory : Location)
    (settings : Settings) :
    (Alike (run journal directory settings.strict) (run journal directory settings.lenient) ∧
      ∀ result report, (run journal directory settings.strict).2 = .ok result →
        result.failure = some (.unknownTag report) →
          ∃ documentation, settings.documentation = some documentation ∧
            SetsPolicy (journal.note (startRecord settings)).volume directory documentation) ∨
      ∃ (stages : Accepted journal directory settings.strict)
        (other : Accepted journal directory settings.lenient), stages.Parallel other ∧
        ¬ SetsPolicy (journal.note (startRecord settings)).volume directory stages.documentation ∧
        other.effective = stages.effective.lenient ∧
        stages.effective = stages.effective.strict := by
  rcases stops_or_accepted journal directory settings.strict with
    ⟨stopped, refused, error, stops, same⟩ |
      ⟨documentation, prepared, failure, accepted, documented, applied, kind, same⟩ | ⟨⟨stages⟩⟩
  · obtain ⟨other, stopsLenient, alike⟩ := stops.exists_lenient
    rw [same, run_of_refused stopsLenient]
    refine Or.inl ⟨⟨rfl, congrArg Except.ok ?_⟩, fun result report ran failed => ?_⟩
    · exact congrArg (fun settings => ({ settings, errors := [error] } : RunResult)) alike
    · obtain rfl := Except.ok.inj ran
      cases failed
  · have reached : applyFrontMatter (journal.note (startRecord settings.lenient)) directory
      documentation settings.lenient = (prepared, .error failure) :=
        applyFrontMatter_lenient_of_error applied
    have checked := @run_eq_runChecked journal directory settings.lenient _ accepted documented
    rw [same, checked, runChecked]
    simp only [reached, kind, ↓reduceIte]
    refine Or.inl ⟨⟨rfl, rfl⟩, fun result report ran => ?_⟩
    cases ran
  · obtain ⟨other, parallel, ⟨set, same⟩ | ⟨unset, strictly, leniently⟩⟩ := stages.exists_lenient
    · exact Or.inl ⟨parallel.alike_of_effective_eq same, fun _ _ _ _ =>
        ⟨stages.documentation, stages.documented, set⟩⟩
    · exact Or.inr ⟨stages, other, parallel, unset, leniently, strictly⟩

/-- Two runs whose settings differ in the policy alone are one run, up to the policy in their
results, if front matter says the policy or if no tag without a rule stops the strict one. If one
does, the lenient run works through the same inputs before it, skips that input with the very report,
and goes on: its files begin with those of the strict run, and the report is its first warning. -/
theorem lenient_run_follows_strict_run (journal : Journal) (directory : Location)
    (settings : Settings) :
    let started := (journal.note (startRecord settings)).volume
    let strict := run journal directory settings.strict
    let lenient := run journal directory settings.lenient
    ((∃ documentation, settings.documentation = some documentation ∧
          SetsPolicy started directory documentation) ∨
        (∀ result report, strict.2 = .ok result → result.failure ≠ some (.unknownTag report)) →
      lenient.1 = strict.1 ∧ lenient.2.map RunResult.strict = strict.2.map RunResult.strict) ∧
    ∀ result report, (∀ documentation, settings.documentation = some documentation →
        ¬ SetsPolicy started directory documentation) →
      strict.2 = .ok result → result.failure = some (.unknownTag report) →
      ∃ (stages : Accepted journal directory settings.lenient)
          (worked : List (Path × Completion)) (source : Path) (later : List Path)
          (reached : Journal),
        settings.inputs = worked.map Prod.fst ++ source :: later ∧
        result.generated = generatedPaths stages.output worked ∧
        worked.length = result.generated.length ∧
        Works directory stages.effective.policy stages.output stages.ready
          (worked ++ [(source, .skipped report)]) reached ∧
        ∀ other, lenient.2 = .ok other → result.generated <+: other.generated ∧
          other.warnings.head? = some report ∧
          worked.length < other.generated.length + other.warnings.length := by
  intro started strict lenient
  rcases alike_or_exists_parallel journal directory settings with
    ⟨alike, sets⟩ | ⟨stages, other, parallel, unset, leniently, strictly⟩
  · refine ⟨fun _ => alike, fun result report unset ran stopped => ?_⟩
    obtain ⟨documentation, documented, set⟩ := sets result report ran stopped
    exact absurd set (unset documentation documented)
  · refine ⟨fun same => ?_, fun result report _ ran stopped => ?_⟩
    · rcases same with ⟨documentation, documented, set⟩ | known
      · obtain rfl := Option.some.inj (stages.documented.symm.trans documented)
        exact absurd set unset
      · exact parallel.alike leniently strictly known
    · obtain ⟨worked, source, later, reached, inputs, listed, unskipped, made, works⟩ :=
        parallel.goes_on leniently strictly ran stopped
      have counted := length_generatedPaths_add other.output worked
      rw [unskipped, ← listed] at counted
      refine ⟨other, worked, source, later, reached, inputs, listed, counted.symm, works, ?_⟩
      intro outcome ended
      have all : settings.lenient.inputs =
          (worked ++ [(source, Completion.skipped report)]).map Prod.fst ++ later := by
        rw [List.map_append, List.append_assoc]
        exact inputs
      obtain ⟨after, generated, warnings⟩ := other.report_of_works made works all ended
      rw [List.append_assoc, generatedPaths_append, ← listed] at generated
      rw [List.append_assoc, skippedReports_append, unskipped] at warnings
      refine ⟨generated ▸ List.prefix_append _ _, by rw [warnings]; rfl, ?_⟩
      rw [generated, warnings, ← counted]
      simp
      omega

theorem second_input_of_mixed_run_is_skipped :
    ∃ other, (run { volume := mixedVolume } [] mixedSettings.lenient).2 = .ok other ∧
      [⟨.relative, ["docs", "one.md"]⟩] <+: other.generated ∧
      other.warnings.head? = some ⟨⟨"x", ⟨1, 1⟩⟩, "two.xml"⟩ ∧
      1 < other.generated.length + other.warnings.length := by
  have evaluated : (run { volume := mixedVolume } [] mixedSettings.strict).2.toOption = some
      { settings := mixedSettings.strict, generated := [⟨.relative, ["docs", "one.md"]⟩]
        errors := [TagReport.message ⟨⟨"x", ⟨1, 1⟩⟩, "two.xml"⟩]
        failure := some (.unknownTag ⟨⟨"x", ⟨1, 1⟩⟩, "two.xml"⟩) } := by
    decide +kernel
  have plain : (frontMatterOptions mixedVolume [] ⟨.relative, ["docs"]⟩).toOption = some none := by
    decide +kernel
  have unset : ∀ documentation, mixedSettings.documentation = some documentation →
      ¬ SetsPolicy mixedVolume [] documentation := by
    rintro documentation documented ⟨options, tags, found, -⟩
    obtain rfl := Option.some.inj documented
    rw [toOption_eq_some_iff.mp plain] at found
    cases found
  have follows := lenient_run_follows_strict_run { volume := mixedVolume } [] mixedSettings
  rw [Journal.volume_note _ rfl] at follows
  obtain ⟨stages, worked, source, later, reached, -, -, counted, -, goesOn⟩ :=
    follows.2 _ _ unset (toOption_eq_some_iff.mp evaluated) rfl
  have succeeds : (run { volume := mixedVolume } [] mixedSettings.lenient).2.toOption.isSome := by
    decide +kernel
  obtain ⟨other, same⟩ := Option.isSome_iff_exists.mp succeeds
  have ended := toOption_eq_some_iff.mp same
  obtain ⟨begins, first, more⟩ := goesOn other ended
  rw [counted] at more
  exact ⟨other, ended, begins, first, more⟩

end MemberDocs.Generation
