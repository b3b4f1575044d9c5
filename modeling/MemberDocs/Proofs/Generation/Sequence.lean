import MemberDocs.Proofs.Generation.Completion
import MemberDocs.Proofs.Generation.Stages
import MemberDocs.Proofs.Result

/-! # Runs as a sequence of inputs

A run with accepted settings works through its inputs in order, and what it reports is what has become
of the inputs before the one that stops it (`inputs_are_worked_through_in_order`). That one leaves
every file as it was, and the inputs after it have no part in the run.
-/

namespace MemberDocs.Generation

variable {journal final : Journal} {directory : Location} {settings : Settings}
  {result : RunResult}

/-- What is told about a run that a failure stops. -/
def failureRecord (journal : Journal) (failure : Failure) : LogRecord :=
  { level := .error, source := .run, hasTrace := journal.traces
    message := "Markdown generation failed: " ++ failure.message }

theorem eq_of_failWith {started : RunResult} {failure : Failure}
    (failed : failWith journal started failure = (final, .ok result)) :
    final = journal.note (failureRecord journal failure) ∧
      result = { started with errors := [failure.message], failure := some failure } := by
  unfold failWith at failed
  split at failed
  next => simp at failed
  next =>
    obtain ⟨rfl, same⟩ := Prod.mk.inj failed
    exact ⟨rfl, (Except.ok.inj same).symm⟩

/-- A run that comes to its end has merged exactly if it was to. -/
theorem merged_iff_of_mergeGenerated {documentation : Path} {progress : Progress}
    {merged : Option Path} {after : Journal}
    (done : mergeGenerated directory settings documentation progress = (after, .ok merged))
    (path : Path) :
    merged = some path ↔ settings.mergesFiles ∧ settings.output = some path := by
  rcases cases_of_mergeGenerated done with ⟨rfl, -, apart⟩ | ⟨output, -, rfl, merges, named, -⟩
  · refine ⟨fun same => by simp at same, fun ⟨merges, named⟩ => ?_⟩
    exact absurd ⟨merges, by simp [named]⟩ apart
  · simp [merges, named]

namespace Accepted

variable (stages : Accepted journal directory settings)

theorem effective_inputs : stages.effective.inputs = settings.inputs :=
  (paths_of_applyFrontMatter stages.applied).1

theorem effective_output : stages.effective.output = settings.output :=
  (paths_of_applyFrontMatter stages.applied).2.2

/-- The progress when some inputs have been worked through. -/
def progress (worked : List (Path × Completion)) (reached : Journal) : Progress :=
  Progress.advance { journal := stages.ready } stages.output worked reached

/-- What is reported about inputs that have been worked through. -/
def report (worked : List (Path × Completion)) : RunResult where
  settings := stages.effective
  generated := generatedPaths stages.output worked
  warnings := skippedReports worked

/-- The three ways in which a run is stopped: by the inputs that have been worked through before, the
journal after them, the one that the failure is noted in, and the failure. -/
inductive Stops : List (Path × Completion) → Journal → Journal → Failure → Prop where
  | notMade {fault : FileFault} (unmade : stages.made.2 = some fault) :
      Stops [] stages.ready stages.ready (.file fault)
  | stopped {worked : List (Path × Completion)} {reached : Journal} {source : Path}
      {later : List Path} {failure : Failure} (made : stages.made.2 = none)
      (works : Works directory stages.effective.policy stages.output stages.ready worked reached)
      (inputs : settings.inputs = worked.map Prod.fst ++ source :: later)
      (fails : Fails directory stages.effective.policy stages.output reached source failure) :
      Stops worked reached reached failure
  | notMerged {worked : List (Path × Completion)} {reached after : Journal} {failure : Failure}
      (made : stages.made.2 = none)
      (works : Works directory stages.effective.policy stages.output stages.ready worked reached)
      (inputs : settings.inputs = worked.map Prod.fst)
      (failed : mergeGenerated directory stages.effective stages.documentation
        (stages.progress worked reached) = (after, .error failure)) :
      Stops worked reached after failure

/-- A run whose inputs can all be worked through succeeds if it can merge. -/
theorem run_of_works {worked : List (Path × Completion)} {reached : Journal}
    {merged : Option Path} (made : stages.made.2 = none)
    (works : Works directory stages.effective.policy stages.output stages.ready worked reached)
    (inputs : settings.inputs = worked.map Prod.fst)
    (done : mergeGenerated directory stages.effective stages.documentation
      (stages.progress worked reached) = (final, .ok merged)) :
    run journal directory settings =
      (final, .ok { stages.report worked with merged, success := true }) := by
  have generated := generateAll_of_works (Progress.mk stages.ready [] []) works []
  rw [List.append_nil, ← inputs, ← stages.effective_inputs] at generated
  rw [stages.run_eq]
  exact produce_of_merged (Prod.ext rfl made) generated done

/-- What stops a run is its failure. -/
theorem run_of_stops {worked : List (Path × Completion)} {reached after : Journal}
    {failure : Failure} (stops : stages.Stops worked reached after failure) :
    run journal directory settings = failWith after (stages.report worked) failure := by
  rw [stages.run_eq]
  cases stops with
  | notMade unmade => exact produce_of_not_made (Prod.ext rfl unmade)
  | @stopped _ _ source later failure made works inputs fails =>
    have stopped := generateAll_of_fails (Progress.mk stages.ready [] []) works fails later
    rw [← inputs, ← stages.effective_inputs] at stopped
    exact produce_of_stopped (Prod.ext rfl made) stopped
  | notMerged made works inputs failed =>
    have generated := generateAll_of_works (Progress.mk stages.ready [] []) works []
    rw [List.append_nil, ← inputs, ← stages.effective_inputs] at generated
    exact produce_of_not_merged (Prod.ext rfl made) generated failed

/-- A run with accepted settings comes to its end, or it is stopped. -/
theorem succeeds_or_stops (stages : Accepted journal directory settings) :
    (∃ worked reached after merged, stages.made.2 = none ∧
      Works directory stages.effective.policy stages.output stages.ready worked reached ∧
      settings.inputs = worked.map Prod.fst ∧
      mergeGenerated directory stages.effective stages.documentation
        (stages.progress worked reached) = (after, .ok merged)) ∨
    ∃ worked reached after failure, stages.Stops worked reached after failure := by
  cases made : stages.made.2 with
  | some fault => exact Or.inr ⟨[], stages.ready, _, _, .notMade made⟩
  | none =>
    obtain ⟨worked, reached, works, ends⟩ := works_or_fails directory stages.effective.policy
      stages.output stages.ready settings.inputs
    rcases ends with inputs | ⟨source, later, failure, inputs, fails⟩
    · cases mergedTo : mergeGenerated directory stages.effective stages.documentation
          (stages.progress worked reached) with
      | mk after outcome =>
        cases outcome with
        | ok merged => exact Or.inl ⟨worked, reached, after, merged, rfl, works, inputs, mergedTo⟩
        | error failure =>
          exact Or.inr ⟨worked, reached, after, failure, .notMerged made works inputs mergedTo⟩
    · exact Or.inr ⟨worked, reached, reached, failure, .stopped made works inputs fails⟩

/-- A run that has worked through its first inputs goes on from there, and reports about all. -/
theorem report_of_works {before : List (Path × Completion)} {middle : Journal} {later : List Path}
    (made : stages.made.2 = none)
    (works : Works directory stages.effective.policy stages.output stages.ready before middle)
    (inputs : settings.inputs = before.map Prod.fst ++ later)
    (ran : (run journal directory settings).2 = .ok result) :
    ∃ after, result.generated = generatedPaths stages.output (before ++ after) ∧
      result.warnings = skippedReports (before ++ after) := by
  obtain ⟨after, last, others, ends⟩ := works_or_fails directory stages.effective.policy
    stages.output middle later
  have all := works.append others
  have stopped {final : Journal} {failure : Failure}
      (stops : stages.Stops (before ++ after) last final failure) :
      result.generated = generatedPaths stages.output (before ++ after) ∧
        result.warnings = skippedReports (before ++ after) := by
    rw [stages.run_of_stops stops] at ran
    obtain ⟨-, rfl⟩ := eq_of_failWith (Prod.ext rfl ran)
    exact ⟨rfl, rfl⟩
  refine ⟨after, ?_⟩
  rcases ends with rfl | ⟨source, rest, failure, rfl, fails⟩
  · rw [← List.map_append] at inputs
    cases mergedTo : mergeGenerated directory stages.effective stages.documentation
        (stages.progress (before ++ after) last) with
    | mk final outcome =>
      cases outcome with
      | ok merged =>
        rw [stages.run_of_works made all inputs mergedTo] at ran
        obtain rfl := Except.ok.inj ran
        exact ⟨rfl, rfl⟩
      | error failure => exact stopped (.notMerged made all inputs mergedTo)
  · rw [← List.append_assoc, ← List.map_append] at inputs
    exact stopped (.stopped made all inputs fails)

/-- Whatever becomes of a run with accepted settings, it reports those that are in effect. -/
theorem settings_of_run (ran : (run journal directory settings).2 = .ok result) :
    result.settings = stages.effective := by
  rcases stages.succeeds_or_stops with
    ⟨worked, reached, after, merged, made, works, inputs, done⟩ |
      ⟨worked, reached, after, failure, stops⟩
  · rw [stages.run_of_works made works inputs done] at ran
    obtain rfl := Except.ok.inj ran
    rfl
  · rw [stages.run_of_stops stops] at ran
    obtain ⟨-, rfl⟩ := eq_of_failWith (Prod.ext rfl ran)
    rfl

/-- A file that is neither generated nor the log file is after the inputs what it was before the
run, and the notes on the end of the run leave it so. -/
theorem file_iff_of_works (sound : journal.volume.WellFormedAt directory)
    {worked : List (Path × Completion)} {reached : Journal}
    (works : Works directory stages.effective.policy stages.output stages.ready worked reached)
    {location : Location}
    (apart : location ∉ (generatedPaths stages.output worked).map (·.resolve directory))
    (quiet : ¬ journal.LogsTo location) (content : List UInt8) :
    reached.volume.get? location = some (.file content) ↔
      journal.volume.get? location = some (.file content) := by
  have prepares := stages.writes_ready sound
  have writes := works.writes (prepares.wellFormedAt sound)
  have all := (prepares.mono fun _ => False.elim).trans writes
  exact ⟨all.get?_of_not_written apart quiet, all.get?_of_apart apart quiet⟩

theorem logsTo_iff_of_works (sound : journal.volume.WellFormedAt directory)
    {worked : List (Path × Completion)} {reached : Journal}
    (works : Works directory stages.effective.policy stages.output stages.ready worked reached)
    (location : Location) : reached.LogsTo location ↔ journal.LogsTo location := by
  have prepares := stages.writes_ready sound
  have writes := works.writes (prepares.wellFormedAt sound)
  rw [writes.logsTo_iff, prepares.logsTo_iff]

end Accepted

/-- A run that succeeds has worked through all its inputs, and then merged. -/
theorem works_of_success (ran : run journal directory settings = (final, .ok result))
    (succeeded : result.success) :
    ∃ (stages : Accepted journal directory settings) (worked : List (Path × Completion))
      (reached : Journal), stages.made.2 = none ∧
        Works directory stages.effective.policy stages.output stages.ready worked reached ∧
        settings.inputs = worked.map Prod.fst ∧
        mergeGenerated directory stages.effective stages.documentation
          (stages.progress worked reached) = (final, .ok result.merged) ∧
        result = { stages.report worked with merged := result.merged, success := true } := by
  obtain ⟨all, -⟩ := generatedAll_of_run ran succeeded
  rcases all.toAccepted.succeeds_or_stops with
    ⟨worked, reached, after, merged, made, works, inputs, done⟩ |
      ⟨worked, reached, after, failure, stops⟩
  · rw [all.toAccepted.run_of_works made works inputs done] at ran
    obtain ⟨rfl, same⟩ := Prod.mk.inj ran
    obtain rfl := Except.ok.inj same
    exact ⟨all.toAccepted, worked, reached, made, works, inputs, done, rfl⟩
  · rw [all.toAccepted.run_of_stops stops] at ran
    rw [not_success_of_failWith rfl ran] at succeeded
    cases succeeded

/-- A run with accepted settings works through its first inputs in order, each generated or, under
the policy that allows it, skipped with a report. What it lists are these inputs. Unless it succeeds,
either the documentation directory could not be made, or the next input fails, which changes nothing
and keeps the later inputs out of the run, or all inputs are done and the merge fails. -/
theorem inputs_are_worked_through_in_order (stages : Accepted journal directory settings)
    (sound : journal.volume.WellFormedAt directory)
    (ran : run journal directory settings = (final, .ok result)) :
    ∃ worked reached,
      Works directory stages.effective.policy stages.output stages.ready worked reached ∧
      worked.map Prod.fst <+: settings.inputs ∧
      result.generated = generatedPaths stages.output worked ∧
      result.warnings = skippedReports worked ∧
      worked.length = result.generated.length + result.warnings.length ∧
      (result.success ↔ result.errors = []) ∧
      (result.success → worked.length = settings.inputs.length) ∧
      (∀ path, result.merged = some path ↔
        result.success ∧ stages.effective.mergesFiles ∧ settings.output = some path) ∧
      (result.success ∧ result.failure = none ∨ ∃ failure,
        result.failure = some failure ∧ result.errors = [failure.message] ∧
        ((worked = [] ∧ ∃ fault, stages.made.2 = some fault ∧ failure = .file fault) ∨
          (∃ source later, settings.inputs = worked.map Prod.fst ++ source :: later ∧
            Fails directory stages.effective.policy stages.output reached source failure ∧
            (∀ location, ¬ journal.LogsTo location →
              final.volume.get? location = reached.volume.get? location) ∧
            (∀ own, own = (stages.output source).resolve directory →
              own ∉ result.generated.map (·.resolve directory) → ¬ journal.LogsTo own →
                ∀ content, final.volume.get? own = some (.file content) ↔
                  journal.volume.get? own = some (.file content)) ∧
            ∀ others, generateAll directory stages.effective.policy stages.output
              { journal := stages.ready } (worked.map Prod.fst ++ source :: others) =
                (stages.progress worked reached, some failure)) ∨
          (worked.map Prod.fst = settings.inputs ∧ ∃ after,
            mergeGenerated directory stages.effective stages.documentation
              (stages.progress worked reached) = (after, .error failure)))) := by
  rcases stages.succeeds_or_stops with
    ⟨worked, reached, after, merged, made, works, inputs, done⟩ |
      ⟨worked, reached, after, failure, stops⟩
  · rw [stages.run_of_works made works inputs done] at ran
    obtain ⟨rfl, same⟩ := Prod.mk.inj ran
    obtain rfl := Except.ok.inj same
    refine ⟨worked, reached, works, inputs ▸ List.prefix_rfl, rfl, rfl,
      (length_generatedPaths_add stages.output worked).symm, by simp [Accepted.report], ?_, ?_,
      Or.inl ⟨rfl, rfl⟩⟩
    · intro _
      rw [inputs, List.length_map]
    · intro path
      rw [← stages.effective_output]
      simpa using merged_iff_of_mergeGenerated done path
  · rw [stages.run_of_stops stops] at ran
    obtain ⟨rfl, rfl⟩ := eq_of_failWith ran
    have counted := (length_generatedPaths_add stages.output worked).symm
    cases stops with
    | @notMade fault unmade =>
      refine ⟨[], stages.ready, .nil _, List.nil_prefix, rfl, rfl, counted,
        by simp [Accepted.report], ?_, by simp [Accepted.report], Or.inr ?_⟩
      · intro succeeded
        cases succeeded
      · exact ⟨_, rfl, rfl, Or.inl ⟨rfl, fault, unmade, rfl⟩⟩
    | @stopped _ _ source later failure made works inputs fails =>
      have unchanged : ∀ location, ¬ journal.LogsTo location →
          (reached.note (failureRecord reached failure)).volume.get? location =
            reached.volume.get? location := fun location quiet =>
        Journal.get?_note _ fun logs => quiet ((stages.logsTo_iff_of_works sound works _).mp logs)
      refine ⟨worked, reached, works, ⟨source :: later, inputs.symm⟩, rfl, rfl, counted,
        by simp [Accepted.report], ?_, by simp [Accepted.report],
        Or.inr ⟨failure, rfl, rfl, Or.inr (Or.inl ⟨source, later, inputs, fails, unchanged, ?_, ?_⟩)⟩⟩
      · intro succeeded
        cases succeeded
      · intro own _ apart quiet content
        rw [unchanged own quiet]
        exact stages.file_iff_of_works sound works apart quiet content
      · exact fun others => generateAll_of_fails (Progress.mk stages.ready [] []) works fails others
    | notMerged made works inputs failed =>
      refine ⟨worked, reached, works, inputs ▸ List.prefix_rfl, rfl, rfl, counted,
        by simp [Accepted.report], ?_, by simp [Accepted.report],
        Or.inr ⟨failure, rfl, rfl, Or.inr (Or.inr ⟨inputs.symm, after, failed⟩)⟩⟩
      intro succeeded
      cases succeeded

/-- A run that has been evaluated has ended with the result. -/
theorem exists_run_of_toOption {expected : RunResult}
    (evaluated : (run journal directory settings).2.toOption = some expected) :
    ∃ final, run journal directory settings = (final, .ok expected) ∧
      (run journal directory settings).1 = final :=
  ⟨_, Prod.ext rfl (toOption_eq_some_iff.mp evaluated), rfl⟩

/-- Four inputs: the second one has a tag without a rule, and the third one is no document. -/
def mixedVolume : Volume :=
  ⟨[(["one.xml"], .file (Text.encodeUtf8 "<doc/>")), (["two.xml"], .file (Text.encodeUtf8 "<x/>")),
    (["three.xml"], .file (Text.encodeUtf8 "<")), (["four.xml"], .file (Text.encodeUtf8 "<c/>"))]⟩

def mixedSettings : Settings :=
  { inputs := ["one.xml", "two.xml", "three.xml", "four.xml"].map fun name => ⟨.relative, [name]⟩
    documentation := some ⟨.relative, ["docs"]⟩, policy := .warn }

theorem third_input_stops_mixed_run :
    ∃ result, (run { volume := mixedVolume } [] mixedSettings).2 = .ok result ∧
      result.generated = [⟨.relative, ["docs", "one.md"]⟩] ∧ result.success = false ∧
      ∃ worked : List (Path × Completion), worked.length = 2 ∧
        worked.map Prod.fst <+: mixedSettings.inputs := by
  have sound : mixedVolume.WellFormedAt [] := ⟨⟨by decide, by decide, by decide⟩, rfl⟩
  have applied : (applyFrontMatter (Journal.note { volume := mixedVolume }
      (startRecord mixedSettings)) [] ⟨.relative, ["docs"]⟩ mixedSettings).2 = .ok mixedSettings :=
    toOption_eq_some_iff.mp (by decide +kernel)
  let stages : Accepted { volume := mixedVolume } [] mixedSettings :=
    ⟨⟨.relative, ["docs"]⟩, mixedSettings, _, rfl, rfl, Prod.ext rfl applied, by decide +kernel⟩
  have evaluated : (run { volume := mixedVolume } [] mixedSettings).2.toOption = some
      { settings := mixedSettings, generated := [⟨.relative, ["docs", "one.md"]⟩]
        warnings := [⟨⟨"x", ⟨1, 1⟩⟩, "two.xml"⟩]
        errors := ["unclosed token (line 1, column 1)"]
        failure := some (.conversion (.document (.malformed .unclosedToken ⟨1, 1⟩))) } := by
    decide +kernel
  obtain ⟨final, ran, -⟩ := exists_run_of_toOption evaluated
  obtain ⟨worked, _, -, first, -, -, counted, -⟩ :=
    inputs_are_worked_through_in_order stages sound ran
  exact ⟨_, congrArg Prod.snd ran, rfl, rfl, worked, counted, first⟩

end MemberDocs.Generation
