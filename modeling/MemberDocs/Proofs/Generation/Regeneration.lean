import MemberDocs.Proofs.Generation.EffectiveSettings
import MemberDocs.Proofs.Generation.Renderings
import MemberDocs.Proofs.Generation.Repetition

/-! # Runs on what a run has left

A run on the files that a run with the same settings has left writes the same texts to the same files.
So it changes nothing and reports the same, unless the front matter that it finds has another effect
than that of the first time (`regeneration_is_stable_iff`). Front matter can be lost by a run, when
the file that it is in is generated (`regeneration_after_lost_front_matter`).
-/

namespace MemberDocs.Generation

variable {journal final : Journal} {directory : Location} {settings : Settings}
  {result : RunResult}

/-- A documentation path that has been made is of its kind from then on, and nothing is made a second
time. -/
theorem makeDocumentation_again {made changed : Location → Prop} {before ready after : Volume}
    {documentation : Path} (sound : before.WellFormedAt directory)
    (done : makeDocumentation before directory documentation = (ready, none))
    (evolves : Volume.Evolves made changed ready after) :
    after.isFile directory documentation = before.isFile directory documentation ∧
      makeDocumentation after directory documentation = (after, none) := by
  have makes := makesDirectories_of_makeDocumentation sound done
  unfold makeDocumentation at done ⊢
  by_cases isFile : before.isFile directory documentation
  · have later := evolves.isFile (makes.isFile isFile)
    simp [isFile, later]
  · rw [if_neg isFile] at done
    have isDirectory := evolves.isDirectory (Volume.isDirectory_of_ensureDirectories sound done)
    have soundLater := evolves.wellFormedAt (makes.wellFormedAt sound)
    have notFile : after.isFile directory documentation = false := by
      simp [Volume.isFile, of_decide_eq_true isDirectory]
    simp [isFile, notFile, Volume.ensureDirectories_of_isDirectory soundLater isDirectory]

/-- A merge after generation that has been done can be done again, and changes nothing then. -/
theorem mergeGenerated_again {documentation : Path} {progress later : Progress}
    {merged : Option Path} (sound : progress.journal.volume.WellFormedAt directory)
    (unlogged : progress.journal.logFile = none)
    (done : mergeGenerated directory settings documentation progress = (final, .ok merged))
    (apart : ∀ output ∈ merged, ∀ path ∈ progress.generated,
      path.resolve directory ≠ output.resolve directory)
    (listed : later.generated = progress.generated)
    (same : ∀ location, later.journal.volume.get? location = final.volume.get? location)
    (wellFormed : later.journal.volume.WellFormed) (unloggedLater : later.journal.logFile = none) :
    ∃ last, mergeGenerated directory settings documentation later = (last, .ok merged) ∧
      ∀ location, last.volume.get? location = final.volume.get? location := by
  rcases cases_of_mergeGenerated done with
    ⟨rfl, rfl, inactive⟩ | ⟨output, after, rfl, merges, named, mergedTo, rfl⟩
  · refine ⟨later.journal, ?_, same⟩
    unfold mergeGenerated
    split
    next output merges named => exact absurd ⟨merges, by simp [named]⟩ inactive
    next => rfl
  · have unloggedAfter : after.logFile = none := by
      obtain ⟨_, _, _, _, notes, _, puts, _⟩ := Collection.merge_spec sound mergedTo
      rw [puts.logFile, notes.logFile, unlogged]
    rw [Journal.volume_note _ unloggedAfter] at same ⊢
    obtain ⟨last, mergedAgain, unloggedLast, stays⟩ := Collection.merge_again sound unlogged mergedTo
      (apart output rfl) same wellFormed unloggedLater
    refine ⟨last.note (mergedRecord output), ?_, fun location => ?_⟩
    · simp only [mergeGenerated, merges, named, listed, mergedAgain]
      rfl
    · rw [Journal.volume_note _ unloggedLast, stays, same]

section Accepted

variable (stages : Accepted journal directory settings) {worked : List (Path × Completion)}
  {reached : Journal} {merged : Option Path}
  (sound : journal.volume.WellFormedAt directory) (unlogged : journal.logFile = none)
  (works : Works directory stages.effective.policy stages.output stages.ready worked reached)
  (done : mergeGenerated directory stages.effective stages.documentation
    (stages.progress worked reached) = (final, .ok merged))

include sound works done

/-- After generation, a run writes what it merges into. -/
theorem Accepted.writes_merged :
    Journal.Writes (fun location => ∃ path ∈ merged, location = path.resolve directory)
      reached final := by
  have soundReady := (stages.writes_ready sound).wellFormedAt sound
  exact writes_of_mergeGenerated ((works.writes soundReady).wellFormedAt soundReady) done

include unlogged

/-- A run that has written over no input leaves a settled volume. -/
theorem Accepted.settled
    (inputsApart : ∀ entry ∈ worked, ∀ path ∈ generatedPaths stages.output worked ++ merged.toList,
      entry.1.resolve directory ≠ path.resolve directory)
    (mergedApart : ∀ output ∈ merged, ∀ path ∈ generatedPaths stages.output worked,
      path.resolve directory ≠ output.resolve directory) :
    Settled directory stages.effective.policy stages.output worked final.volume := by
  have prepares := stages.writes_ready sound
  have unloggedReady : stages.ready.logFile = none := prepares.logFile.trans unlogged
  have unloggedReached : reached.logFile = none := works.logFile_eq.trans unloggedReady
  have apart : ∀ entry ∈ worked, entry.1.resolve directory ∉
      (generatedPaths stages.output worked).map (·.resolve directory) := by
    intro entry member hit
    obtain ⟨path, listed, meant⟩ := List.mem_map.mp hit
    exact inputsApart entry member path (List.mem_append_left _ listed) meant.symm
  refine (works.settled (prepares.wellFormedAt sound) unloggedReady apart).evolves
    (stages.writes_merged sound works done).volume ?_ ?_
  · rintro entry member (⟨output, reported, meant⟩ | logs)
    · exact inputsApart entry member output
        (List.mem_append_right _ (Option.mem_toList.mpr reported)) meant
    · exact Journal.not_logsTo unloggedReached _ logs
  · rintro path member (⟨output, reported, meant⟩ | logs)
    · exact mergedApart output reported path member meant
    · exact Journal.not_logsTo unloggedReached _ logs

end Accepted

/-- A run whose settings are accepted once more finds the documentation path as it was made. -/
theorem Accepted.exists_made_again (stages : Accepted journal directory settings)
    (sound : journal.volume.WellFormedAt directory) (made : stages.made.2 = none)
    {created changed : Location → Prop} {again : Journal}
    (evolves : Volume.Evolves created changed stages.ready.volume again.volume)
    (unlogged : again.logFile = none)
    (inEffect : effectiveSettings again.volume directory stages.documentation settings =
      .ok stages.effective) :
    ∃ later : Accepted again directory settings, later.documentation = stages.documentation ∧
      later.effective = stages.effective ∧ later.output = stages.output ∧
      later.made.2 = none ∧ later.ready.volume = again.volume ∧ later.ready.logFile = none := by
  obtain ⟨kind, madeAgain⟩ := makeDocumentation_again
    ((stages.writes_prepared sound).wellFormedAt sound) (Prod.ext rfl made) evolves
  obtain ⟨later, sameDocumentation, sameEffective, volume, unloggedLater, sameOutput⟩ :=
    stages.exists_again unlogged inEffect kind
  have madeLater : later.made = (again.volume, none) := by
    rw [Accepted.made, sameDocumentation, volume, madeAgain]
  exact ⟨later, sameDocumentation, sameEffective, sameOutput, congrArg Prod.snd madeLater,
    congrArg Prod.fst madeLater, unloggedLater⟩

/-- A run that has succeeded, without a log file, can be done again with the same settings in effect. -/
theorem run_again (sound : journal.volume.WellFormedAt directory)
    (unlogged : journal.logFile = none)
    (ran : run journal directory settings = (final, .ok result)) (succeeded : result.success)
    (inputsApart : ∀ source ∈ settings.inputs, ∀ path ∈ result.generated ++ result.merged.toList,
      source.resolve directory ≠ path.resolve directory)
    (mergedApart : ∀ merged ∈ result.merged, ∀ path ∈ result.generated,
      path.resolve directory ≠ merged.resolve directory)
    {again : Journal} (same : again.volume = final.volume) (unloggedAgain : again.logFile = none)
    (inEffect : ∀ documentation ∈ settings.documentation,
      effectiveSettings final.volume directory documentation settings =
        effectiveSettings journal.volume directory documentation settings) :
    ∃ last, run again directory settings = (last, .ok result) ∧
      ∀ location, last.volume.get? location = final.volume.get? location := by
  obtain ⟨stages, worked, reached, made, works, inputs, done, listed⟩ :=
    works_of_success ran succeeded
  have generated : result.generated = generatedPaths stages.output worked := by rw [listed]; rfl
  rw [generated] at inputsApart mergedApart
  rw [inputs] at inputsApart
  have soundReady := (stages.writes_ready sound).wellFormedAt sound
  have writes := works.writes soundReady
  have merges := stages.writes_merged sound works done
  have soundReached := writes.wellFormedAt soundReady
  have unloggedReached : reached.logFile = none :=
    works.logFile_eq.trans ((stages.writes_ready sound).logFile.trans unlogged)
  have settled := stages.settled sound unlogged works done
    (fun entry member => inputsApart entry.1 (List.mem_map_of_mem member)) mergedApart
  -- The second run goes through the same stages.
  have onwards : Volume.Evolves (fun _ => True) (fun _ => True) stages.ready.volume final.volume :=
    (writes.volume.mono (fun _ _ => trivial) fun _ _ => trivial).trans
      (merges.volume.mono (fun _ _ => trivial) fun _ _ => trivial)
  obtain ⟨later, sameDocumentation, sameEffective, sameOutput, madeLater, ready, unloggedLater⟩ :=
    stages.exists_made_again sound made (same ▸ onwards) unloggedAgain
      (by rw [same, inEffect _ stages.documented, stages.effectiveSettings_eq unlogged])
  rw [same] at ready
  rw [← sameOutput, ← sameEffective, ← ready] at settled
  have soundLater : later.ready.volume.WellFormedAt directory :=
    ready ▸ onwards.wellFormedAt soundReady
  obtain ⟨reachedAgain, worksAgain, stays⟩ := settled.works_again soundLater unloggedLater
  rw [ready] at stays
  have soundAgain := (worksAgain.writes soundLater).wellFormedAt soundLater
  have sameGenerated : (later.progress worked reachedAgain).generated =
      (stages.progress worked reached).generated := by
    simp only [Accepted.progress, Progress.advance, sameOutput]
  obtain ⟨last, mergedAgain, unchanged⟩ := mergeGenerated_again soundReached unloggedReached done
    mergedApart sameGenerated stays soundAgain.wellFormed
    (worksAgain.logFile_eq.trans unloggedLater)
  rw [← sameEffective, ← sameDocumentation] at mergedAgain
  have ranAgain := later.run_of_works madeLater worksAgain inputs mergedAgain
  have sameReport : later.report worked = stages.report worked := by
    simp only [Accepted.report, sameEffective, sameOutput]
  rw [sameReport, ← listed] at ranAgain
  exact ⟨last, ranAgain, unchanged⟩

/-- A run on what a run with the same settings has left reports the same and changes nothing, exactly
if the front matter that it finds leaves the same settings in effect. -/
theorem regeneration_is_stable_iff (sound : journal.volume.WellFormedAt directory)
    (unlogged : journal.logFile = none)
    (ran : run journal directory settings = (final, .ok result)) (succeeded : result.success)
    (inputsApart : ∀ source ∈ settings.inputs, ∀ path ∈ result.generated ++ result.merged.toList,
      source.resolve directory ≠ path.resolve directory)
    (mergedApart : ∀ merged ∈ result.merged, ∀ path ∈ result.generated,
      path.resolve directory ≠ merged.resolve directory)
    {again : Journal} (same : again.volume = final.volume) (unloggedAgain : again.logFile = none) :
    (∃ last, run again directory settings = (last, .ok result) ∧
        ∀ location, last.volume.get? location = final.volume.get? location) ↔
      ∀ documentation ∈ settings.documentation,
        effectiveSettings final.volume directory documentation settings =
          effectiveSettings journal.volume directory documentation settings := by
  constructor
  · rintro ⟨last, ranAgain, -⟩ documentation documented
    obtain ⟨stages, _, _, -, -, -, -, listed⟩ := works_of_success ran succeeded
    obtain ⟨later, _, _, -, -, -, -, listedAgain⟩ := works_of_success ranAgain succeeded
    have sameEffective : later.effective = stages.effective := by
      have first : result.settings = stages.effective := by rw [listed]; rfl
      have second : result.settings = later.effective := by rw [listedAgain]; rfl
      exact second.symm.trans first
    obtain rfl := Option.some.inj (stages.documented.symm.trans documented)
    have sameDocumentation := Option.some.inj (stages.documented.symm.trans later.documented)
    have inEffect := later.effectiveSettings_eq unloggedAgain
    rw [← sameDocumentation, same, sameEffective] at inEffect
    rw [inEffect, stages.effectiveSettings_eq unlogged]
  · exact run_again sound unlogged ran succeeded inputsApart mergedApart same unloggedAgain

def sampleResult : RunResult :=
  { settings := sampleSettings, generated := [⟨.relative, ["docs", "api.md"]⟩]
    merged := some ⟨.relative, ["docs", "all.md"]⟩, success := true }

theorem sample_is_stable :
    ∃ final last, run { volume := sampleVolume } [] sampleSettings = (final, .ok sampleResult) ∧
      run { volume := final.volume } [] sampleSettings = (last, .ok sampleResult) ∧
      ∀ location, last.volume.get? location = final.volume.get? location := by
  have sound : sampleVolume.WellFormedAt [] := ⟨⟨by decide, by decide, by decide⟩, rfl⟩
  have evaluated : (run { volume := sampleVolume } [] sampleSettings).2.toOption =
      some sampleResult := by
    simp only [run, runChecked, produce, mergeGenerated, Collection.merge, Collection.findExisting,
      Collection.discover, Collection.markdownBelow, Collection.mergeSort_eq_insertionSort]
    decide +kernel
  obtain ⟨final, ran, reached⟩ := exists_run_of_toOption evaluated
  have inEffect : (effectiveSettings sampleVolume [] ⟨.relative, ["docs"]⟩ sampleSettings).toOption =
      some sampleSettings := by
    simp only [effectiveSettings, frontMatterOptions, FrontMatter.findBlock, Collection.discover,
      Collection.markdownBelow, Collection.mergeSort_eq_insertionSort]
    decide +kernel
  have stillInEffect : (effectiveSettings (run { volume := sampleVolume } [] sampleSettings).1.volume
      [] ⟨.relative, ["docs"]⟩ sampleSettings).toOption = some sampleSettings := by
    simp only [effectiveSettings, frontMatterOptions, FrontMatter.findBlock, run, runChecked,
      produce, mergeGenerated, Collection.merge, Collection.findExisting, Collection.discover,
      Collection.markdownBelow, Collection.mergeSort_eq_insertionSort]
    decide +kernel
  rw [reached] at stillInEffect
  have stable := regeneration_is_stable_iff sound rfl ran rfl (by decide) (by decide)
    (show (Journal.mk final.volume [] none false).volume = final.volume from rfl) rfl
  obtain ⟨last, ranAgain, unchanged⟩ := stable.mpr fun documentation documented => by
    obtain rfl := Option.some.inj documented
    rw [toOption_eq_some_iff.mp stillInEffect, toOption_eq_some_iff.mp inEffect]
  exact ⟨final, last, ran, ranAgain, unchanged⟩

/-- One file, with front matter that keeps it from being merged, and an input. -/
def bookVolume : Volume :=
  ⟨[(["api.xml"], .file (Text.encodeUtf8 "<doc/>")),
    (["book.md"], .file (Text.encodeUtf8 "---\nMergeXmlComments: false\n---\n"))]⟩

/-- The input is generated into the file. -/
def bookSettings : Settings :=
  { inputs := [⟨.relative, ["api.xml"]⟩], documentation := some ⟨.relative, ["book.md"]⟩
    mergesFiles := true, output := some ⟨.relative, ["all.md"]⟩ }

def bookResult : RunResult :=
  { settings := { bookSettings with mergesFiles := false }
    generated := [⟨.relative, ["book.md"]⟩], success := true }

/-- A run that generates the file with the front matter is followed by another one that merges. -/
theorem regeneration_after_lost_front_matter :
    ∃ final last later, run { volume := bookVolume } [] bookSettings = (final, .ok bookResult) ∧
      run { volume := final.volume } [] bookSettings = (last, .ok later) ∧
      (∀ source ∈ bookSettings.inputs, ∀ path ∈ bookResult.generated ++ bookSettings.output.toList,
        source.resolve [] ≠ path.resolve []) ∧
      (∀ output ∈ bookSettings.output, ∀ path ∈ bookResult.generated,
        path.resolve [] ≠ output.resolve []) ∧
      bookResult.settings.mergesFiles = false ∧ later.settings.mergesFiles = true ∧
      final.volume.get? ["all.md"] = none ∧ last.volume.get? ["all.md"] ≠ none := by
  have evaluated : (run { volume := bookVolume } [] bookSettings).2.toOption = some bookResult := by
    decide +kernel
  have evaluatedAgain : (run { volume := (run { volume := bookVolume } [] bookSettings).1.volume } []
      bookSettings).2.toOption = some
        { settings := bookSettings, generated := [⟨.relative, ["book.md"]⟩]
          merged := some ⟨.relative, ["all.md"]⟩, success := true } := by decide +kernel
  have unmerged : (run { volume := bookVolume } [] bookSettings).1.volume.get? ["all.md"] = none := by
    decide +kernel
  have merged : (run { volume := (run { volume := bookVolume } [] bookSettings).1.volume } []
      bookSettings).1.volume.get? ["all.md"] ≠ none := by decide +kernel
  obtain ⟨final, ran, reached⟩ := exists_run_of_toOption evaluated
  rw [reached] at evaluatedAgain unmerged merged
  obtain ⟨last, ranAgain, reachedAgain⟩ := exists_run_of_toOption evaluatedAgain
  rw [reachedAgain] at merged
  exact ⟨final, last, _, ran, ranAgain, by decide, by decide, rfl, rfl, unmerged, merged⟩

end MemberDocs.Generation
