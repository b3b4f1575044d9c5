import MemberDocs.Proofs.Generation.Frame
import MemberDocs.Proofs.Generation.Renderings
import MemberDocs.Proofs.Generation.Repetition

/-! # Inputs in another order

What becomes of an input is the same before and after other inputs, as long as these do not write
over it (`exists_completes_iff_of_keepsTo`). So inputs that are not written over can be worked
through in any order if each of them can be worked through first (`exists_works_iff`). If each is
generated into a file of its own, the order does not show in the volume (`Works.get?_eq_of_perm`).
Before a run comes to its first input, it tells their number and not their order
(`Accepted.withInputs`), so in another order it comes to the same end (`inputs_can_be_reordered`).
-/

namespace MemberDocs.Generation

variable {directory : Location} {policy : TagPolicy} {output : Path → Path}
  {first last : Journal} {worked other : List (Path × Completion)}

/-! ## One input, sooner or later -/

/-- What it takes to work an input through. -/
theorem exists_completes_iff {journal : Journal} {source : Path} {completion : Completion} :
    (∃ next, Completes directory policy output journal source completion next) ↔
      ∃ bytes, journal.volume.read directory source = .ok bytes ∧
        ((∃ markdown, completion = .generated markdown ∧
            Markdown.convertBytes bytes = .ok markdown ∧
            ∃ volume, journal.volume.write directory (output source)
              (Text.encodeUtf8 markdown) = .ok volume) ∨
          ∃ tag, completion = .skipped ⟨tag, source.text⟩ ∧
            Markdown.convertBytes bytes = .error (.rendering (.unknownTag tag)) ∧
            policy = .warn) := by
  constructor
  · rintro ⟨next, step⟩
    cases step with
    | generated read converted written =>
      exact ⟨_, read, Or.inl ⟨_, rfl, converted, _, written⟩⟩
    | skipped read converted allowed => exact ⟨_, read, Or.inr ⟨_, rfl, converted, allowed⟩⟩
  · rintro ⟨bytes, read, ⟨markdown, rfl, converted, volume, written⟩ |
      ⟨tag, rfl, converted, allowed⟩⟩
    · exact ⟨_, .generated read converted written⟩
    · exact ⟨_, .skipped read converted allowed⟩

/-- Files that are written elsewhere make no difference to an input. -/
theorem exists_completes_iff_of_keepsTo {written : Location → Prop} {before after : Journal}
    {source : Path} {completion : Completion}
    (keeps : Journal.KeepsTo written (fun _ => False) before after)
    (sound : before.volume.WellFormedAt directory)
    (apart : ¬ written (source.resolve directory))
    (quiet : ¬ before.LogsTo (source.resolve directory)) :
    (∃ next, Completes directory policy output after source completion next) ↔
      ∃ next, Completes directory policy output before source completion next := by
  have reads := keeps.writes.volume.read_eq_ok_iff keeps.opens directory source
  have writes := keeps.writes.volume.exists_write_iff keeps.opens sound
  simp only [exists_completes_iff, reads _ (not_or.mpr ⟨apart, quiet⟩), writes]

theorem Completes.keepsTo_generated {before after : Journal} {source : Path}
    {completion : Completion}
    (step : Completes directory policy output before source completion after)
    (sound : before.volume.WellFormedAt directory) :
    Journal.KeepsTo (· ∈ (generatedPaths output [(source, completion)]).map (·.resolve directory))
      (fun _ => False) before after :=
  ⟨step.writes sound, ((step.steps sound).keepsTo sound.wellFormed).opens⟩

/-! ## All inputs, in any order -/

/-- Inputs that are not written over can be worked through if each of them can be the first. -/
theorem exists_works_iff (sound : first.volume.WellFormedAt directory)
    (apart : ∀ entry ∈ worked, entry.1.resolve directory ∉
      (generatedPaths output worked).map (·.resolve directory))
    (quiet : ∀ entry ∈ worked, ¬ first.LogsTo (entry.1.resolve directory)) :
    (∃ last, Works directory policy output first worked last) ↔
      ∀ entry ∈ worked, ∃ next, Completes directory policy output first entry.1 entry.2 next := by
  induction worked generalizing first with
  | nil => exact ⟨fun _ => by simp, fun _ => ⟨first, .nil first⟩⟩
  | cons entry rest ih =>
    obtain ⟨source, completion⟩ := entry
    simp only [generatedPaths_cons output (source, completion) rest, List.map_append,
      List.mem_append, not_or] at apart
    -- After the first input, the rest can be worked through exactly if it can before.
    have later {next : Journal}
        (step : Completes directory policy output first source completion next) :
        (∃ last, Works directory policy output next rest last) ↔
          ∀ entry ∈ rest, ∃ next, Completes directory policy output first entry.1 entry.2 next := by
      have keeps := step.keepsTo_generated sound
      rw [ih (keeps.writes.wellFormedAt sound)
        (fun entry among => (apart entry (List.mem_cons_of_mem _ among)).2) fun entry among => ?_]
      · refine forall₂_congr fun entry among => ?_
        have listed := List.mem_cons_of_mem (source, completion) among
        exact exists_completes_iff_of_keepsTo keeps sound (apart entry listed).1
          (quiet entry listed)
      · rw [keeps.writes.logsTo_iff]
        exact quiet entry (List.mem_cons_of_mem _ among)
    rw [List.forall_mem_cons]
    constructor
    · rintro ⟨last, works⟩
      cases works with
      | cons step others => exact ⟨⟨_, step⟩, (later step).mp ⟨last, others⟩⟩
    · rintro ⟨⟨next, step⟩, all⟩
      obtain ⟨last, others⟩ := (later step).mpr all
      exact ⟨last, .cons step others⟩

theorem renderings_perm (reordered : other.Perm worked) (output : Path → Path) :
    (renderings output other).Perm (renderings output worked) :=
  reordered.filterMap _

theorem generatedPaths_perm (reordered : other.Perm worked) (output : Path → Path) :
    (generatedPaths output other).Perm (generatedPaths output worked) :=
  (renderings_perm reordered output).map _

theorem generatedPaths_sublist (output : Path → Path) (worked : List (Path × Completion)) :
    (generatedPaths output worked).Sublist ((worked.map Prod.fst).map output) := by
  induction worked with
  | nil => exact .slnil
  | cons entry rest ih =>
    obtain ⟨source, completion⟩ := entry
    cases completion with
    | generated markdown => exact ih.cons_cons (output source)
    | skipped report => exact ih.cons (output source)

/-- Inputs that have been worked through without being written over can be worked through in any
other order. -/
theorem Works.exists_of_perm (works : Works directory policy output first worked last)
    (sound : first.volume.WellFormedAt directory)
    (apart : ∀ entry ∈ worked, entry.1.resolve directory ∉
      (generatedPaths output worked).map (·.resolve directory))
    (quiet : ∀ entry ∈ worked, ¬ first.LogsTo (entry.1.resolve directory))
    (reordered : other.Perm worked) :
    ∃ final, Works directory policy output first other final := by
  have each := (exists_works_iff sound apart quiet).mp ⟨last, works⟩
  have same := (generatedPaths_perm reordered output).map (·.resolve directory)
  refine (exists_works_iff sound (fun entry among => ?_) fun entry among => ?_).mpr
    fun entry among => each entry (reordered.mem_iff.mp among)
  · rw [same.mem_iff]
    exact apart entry (reordered.mem_iff.mp among)
  · exact quiet entry (reordered.mem_iff.mp among)

/-! ## The volume in the end -/

/-- Of texts for locations of their own, a location has the one that is written to it. -/
theorem textAt?_eq_some_iff_of_nodup {texts : List (Path × String)}
    (own : ((texts.map Prod.fst).map (·.resolve directory)).Nodup) (location : Location)
    (text : String) :
    textAt? directory location texts = some text ↔
      ∃ path, (path, text) ∈ texts ∧ path.resolve directory = location := by
  induction texts with
  | nil => simp [textAt?]
  | cons entry rest ih =>
    obtain ⟨path, written⟩ := entry
    rw [List.map_cons, List.map_cons, List.nodup_cons, ← exists_textAt?_iff] at own
    obtain ⟨alone, others⟩ := own
    rw [textAt?, Option.or_eq_some_iff, ih others]
    constructor
    · rintro (⟨later, among, meant⟩ | ⟨-, here⟩)
      · exact ⟨later, List.mem_cons_of_mem _ among, meant⟩
      · obtain ⟨meant, same⟩ := Option.ite_none_right_eq_some.mp here
        obtain rfl := Option.some.inj same
        exact ⟨path, List.mem_cons_self, meant⟩
    · rintro ⟨later, among, meant⟩
      rcases List.mem_cons.mp among with same | among
      · obtain ⟨rfl, rfl⟩ := Prod.mk.inj same
        subst meant
        refine Or.inr ⟨?_, by simp⟩
        exact Option.eq_none_iff_forall_ne_some.mpr fun text found => alone ⟨text, found⟩
      · exact Or.inl ⟨later, among, meant⟩

theorem textAt?_eq_of_perm {texts others : List (Path × String)} (reordered : others.Perm texts)
    (own : ((texts.map Prod.fst).map (·.resolve directory)).Nodup) (location : Location) :
    textAt? directory location others = textAt? directory location texts := by
  have ownAgain := (((reordered.map Prod.fst).map (·.resolve directory)).nodup_iff).mpr own
  refine Option.ext fun text => ?_
  simp only [textAt?_eq_some_iff_of_nodup own, textAt?_eq_some_iff_of_nodup ownAgain,
    reordered.mem_iff]

/-- Inputs that are generated into files of their own leave the same volume in any order. -/
theorem Works.get?_eq_of_perm {final : Journal}
    (works : Works directory policy output first worked last)
    (again : Works directory policy output first other final) (reordered : other.Perm worked)
    (own : ((generatedPaths output worked).map (·.resolve directory)).Nodup) {location : Location}
    (quiet : ¬ first.LogsTo location) :
    final.volume.get? location = last.volume.get? location := by
  rw [works.get?_eq_of_quiet quiet, again.get?_eq_of_quiet quiet,
    textAt?_eq_of_perm (renderings_perm reordered output) own]

/-! ## Runs -/

section

variable {journal final : Journal} {settings : Settings} {result : RunResult}

/-- Front matter is applied whatever the inputs are. -/
theorem applyFrontMatter_withInputs {prepared : Journal} {documentation : Path}
    {effective : Settings}
    (applied : applyFrontMatter journal directory documentation settings =
      (prepared, .ok effective)) (inputs : List Path) :
    applyFrontMatter journal directory documentation { settings with inputs } =
      (prepared, .ok { effective with inputs }) := by
  unfold applyFrontMatter at applied ⊢
  split at applied
  next => simp at applied
  next found =>
    obtain ⟨rfl, same⟩ := Prod.mk.inj applied
    obtain rfl := Except.ok.inj same
    rfl
  next path block found =>
    split at applied
    next => simp at applied
    next reading options succeeded =>
      obtain ⟨rfl, same⟩ := Prod.mk.inj applied
      obtain rfl := Except.ok.inj same
      rfl

namespace Accepted

variable (stages : Accepted journal directory settings)

/-- Other inputs are accepted if they are as many. -/
def withInputs (inputs : List Path) (asMany : inputs.length = settings.inputs.length) :
    Accepted journal directory { settings with inputs } where
  documentation := stages.documentation
  effective := { stages.effective with inputs }
  prepared := stages.prepared
  accepted := by
    have accepted := stages.accepted
    simp only [Settings.inputProblem?, List.isEmpty_iff_length_eq_zero, asMany] at accepted ⊢
    exact accepted
  documented := stages.documented
  applied := by
    have starts : startRecord { settings with inputs } = startRecord settings := by
      simp only [startRecord, asMany]
    rw [starts]
    exact applyFrontMatter_withInputs stages.applied inputs
  acceptedAgain := by
    have accepted := stages.acceptedAgain
    simp only [Settings.outputProblem?, stages.effective_inputs] at accepted ⊢
    rw [asMany]
    exact accepted

theorem output_eq (wellFormed : journal.volume.WellFormed) :
    stages.output = outputPath stages.documentation
      (journal.volume.isFile directory stages.documentation) := by
  rw [output, stages.isFile_prepared wellFormed]

/-- Inputs of different stems are generated into files of their own. -/
theorem nodup_outputs (named : (settings.inputs.map Path.stem).Nodup) :
    ((settings.inputs.map stages.output).map (·.resolve directory)).Nodup := by
  have accepted := stages.acceptedAgain
  unfold output
  cases isFile : stages.prepared.volume.isFile directory stages.documentation with
  | true =>
    -- Into one file, there is one input alone.
    have alone : settings.inputs.length = 1 := by
      simp only [Settings.outputProblem?, Settings.documentationIsFile,
        stages.effective_documentation, isFile, stages.effective_inputs] at accepted
      split at accepted
      next => cases accepted
      next => simpa using accepted
    obtain ⟨source, only⟩ := List.length_eq_one_iff.mp alone
    simp [only]
  | false =>
    have meant : ∀ source : Path, (outputPath stages.documentation false source).resolve directory =
        stages.documentation.resolve directory ++ [source.stem ++ ".md"] := fun source =>
      Path.resolve_suffixed stages.documentation source.stem directory
    have injective : Function.Injective fun name : String =>
        stages.documentation.resolve directory ++ [name ++ ".md"] := by
      intro one two same
      simpa using same
    simpa [List.map_map, Function.comp_def, meant] using named.map injective

end Accepted

/-- The file that an input is generated into, unless its document has a tag without a rule. -/
def generatedFrom? (volume : Volume) (directory : Location) (documentation source : Path) :
    Option Path :=
  (markdownOf? volume directory source).map fun _ =>
    outputPath documentation (volume.isFile directory documentation) source

theorem filterMap_generatedFrom? {volume : Volume} (documentation : Path)
    (documents : ∀ entry ∈ worked, completionOf? volume directory entry.1 = some entry.2) :
    (worked.map Prod.fst).filterMap (generatedFrom? volume directory documentation) =
      generatedPaths (outputPath documentation (volume.isFile directory documentation)) worked := by
  rw [List.filterMap_map, generatedPaths, renderings, List.map_filterMap]
  refine List.filterMap_congr fun entry among => ?_
  simp only [Function.comp_apply, generatedFrom?, markdownOf?, documents entry among,
    Option.bind_some, Option.map_map]
  rfl

/-- Inputs that become something can be listed with what they become, in any order. -/
theorem exists_perm_of_map {volume : Volume} {inputs : List Path}
    (documents : ∀ entry ∈ worked, completionOf? volume directory entry.1 = some entry.2)
    (reordered : inputs.Perm (worked.map Prod.fst)) :
    ∃ others : List (Path × Completion), others.Perm worked ∧ others.map Prod.fst = inputs := by
  let entryOf? (source : Path) : Option (Path × Completion) :=
    (completionOf? volume directory source).map (source, ·)
  have listed : (worked.map Prod.fst).filterMap entryOf? = worked := by
    rw [List.filterMap_map]
    refine (List.filterMap_congr fun entry among => ?_).trans List.filterMap_some
    simp [entryOf?, documents entry among]
  refine ⟨inputs.filterMap entryOf?, ?_, ?_⟩
  · exact (reordered.filterMap entryOf?).trans (.of_eq listed)
  · rw [List.map_filterMap]
    refine (List.filterMap_congr fun source among => ?_).trans List.filterMap_some
    obtain ⟨entry, member, rfl⟩ := List.mem_map.mp (reordered.mem_iff.mp among)
    simp [entryOf?, documents entry member]

/-- If a run with inputs of different stems succeeds without merging, and none of its inputs is
written over, it succeeds with its inputs in every other order. Then each file but the log file is
the same in the end, and what the run lists is listed in the new order of the inputs. -/
theorem inputs_can_be_reordered (sound : journal.volume.WellFormedAt directory)
    (ran : run journal directory settings = (final, .ok result)) (succeeded : result.success)
    (separate : result.settings.mergesFiles = false)
    (named : (settings.inputs.map Path.stem).Nodup)
    (inputsApart : ∀ source ∈ settings.inputs, ∀ path ∈ result.generated,
      source.resolve directory ≠ path.resolve directory)
    (quiet : ∀ source ∈ settings.inputs, ¬ journal.LogsTo (source.resolve directory))
    {inputs : List Path} (reordered : inputs.Perm settings.inputs) :
    ∃ documentation last, settings.documentation = some documentation ∧
      result.generated = settings.inputs.filterMap
        (generatedFrom? journal.volume directory documentation) ∧
      result.warnings = settings.inputs.filterMap (reportOf? journal.volume directory) ∧
      run journal directory { settings with inputs } = (last, .ok
        { result with
          settings := { result.settings with inputs }
          generated := inputs.filterMap (generatedFrom? journal.volume directory documentation)
          warnings := inputs.filterMap (reportOf? journal.volume directory) }) ∧
      ∀ location, ¬ journal.LogsTo location →
        last.volume.get? location = final.volume.get? location := by
  obtain ⟨stages, worked, reached, made, works, listed, done, same⟩ :=
    works_of_success ran succeeded
  have generated : result.generated = generatedPaths stages.output worked := by rw [same]; rfl
  have notMerging : stages.effective.mergesFiles = false := by rwa [same] at separate
  obtain ⟨merged, rfl⟩ : result.merged = none ∧ reached = final := by
    simpa [mergeGenerated, notMerging, Accepted.progress, Progress.advance, and_comm, eq_comm]
      using done
  have prepares := stages.writes_ready sound
  have soundReady := prepares.wellFormedAt sound
  have apart : ∀ entry ∈ worked, entry.1.resolve directory ∉
      (generatedPaths stages.output worked).map (·.resolve directory) := by
    intro entry among here
    obtain ⟨path, written, meant⟩ := List.mem_map.mp here
    have input : entry.1 ∈ settings.inputs := listed ▸ List.mem_map_of_mem among
    exact inputsApart entry.1 input path (generated ▸ written) meant.symm
  have quietInputs : ∀ entry ∈ worked, ¬ journal.LogsTo (entry.1.resolve directory) :=
    fun entry among => quiet _ (listed ▸ List.mem_map_of_mem among)
  have documents := stages.completionOf?_eq sound works apart quietInputs
  obtain ⟨others, perm, rfl⟩ := exists_perm_of_map documents (listed ▸ reordered)
  have documentsAgain : ∀ entry ∈ others,
      completionOf? journal.volume directory entry.1 = some entry.2 :=
    fun entry among => documents entry (perm.mem_iff.mp among)
  obtain ⟨last, again⟩ := works.exists_of_perm soundReady apart
    (fun entry among => by rw [prepares.logsTo_iff]; exact quietInputs entry among) perm
  -- The generated files are among the outputs of the inputs, which are all different.
  have own : ((generatedPaths stages.output worked).map (·.resolve directory)).Nodup := by
    refine (stages.nodup_outputs named).sublist (List.Sublist.map _ ?_)
    rw [listed]
    exact generatedPaths_sublist stages.output worked
  let laterStages := stages.withInputs (others.map Prod.fst) reordered.length_eq
  have doneAgain : mergeGenerated directory laterStages.effective laterStages.documentation
      (laterStages.progress others last) = (last, .ok none) := by
    simp [mergeGenerated, laterStages, Accepted.withInputs, notMerging, Accepted.progress,
      Progress.advance]
  have ranAgain := laterStages.run_of_works made again rfl doneAgain
  refine ⟨stages.documentation, last, stages.documented, ?_, ?_, ?_, fun location quiet => ?_⟩
  · rw [generated, listed, filterMap_generatedFrom? _ documents, stages.output_eq sound.wellFormed]
  · rw [listed, filterMap_reportOf? documents, same]
    rfl
  · rw [ranAgain, filterMap_generatedFrom? _ documentsAgain, filterMap_reportOf? documentsAgain,
      ← stages.output_eq sound.wellFormed, same, merged]
    rfl
  · exact works.get?_eq_of_perm again perm own (by rwa [prepares.logsTo_iff])

/-- Two documents, and two inputs with tags without a rule. -/
def quartetVolume : Volume :=
  ⟨[(["one.xml"], .file (Text.encodeUtf8 "<c>1</c>")),
    (["two.xml"], .file (Text.encodeUtf8 "<x/>")),
    (["three.xml"], .file (Text.encodeUtf8 "<c>3</c>")),
    (["four.xml"], .file (Text.encodeUtf8 "<y/>"))]⟩

def quartetSettings (names : List String) : Settings :=
  { inputs := names.map fun name => ⟨.relative, [name]⟩
    documentation := some ⟨.relative, ["docs"]⟩, policy := .warn }

theorem quartet_is_generated_backwards :
    ∃ final result last, run { volume := quartetVolume } []
        (quartetSettings ["one.xml", "two.xml", "three.xml", "four.xml"]) = (final, .ok result) ∧
      run { volume := quartetVolume } []
        (quartetSettings ["four.xml", "three.xml", "two.xml", "one.xml"]) = (last, .ok
          { settings := quartetSettings ["four.xml", "three.xml", "two.xml", "one.xml"]
            generated := [⟨.relative, ["docs", "three.md"]⟩, ⟨.relative, ["docs", "one.md"]⟩]
            warnings := [⟨⟨"y", ⟨1, 1⟩⟩, "four.xml"⟩, ⟨⟨"x", ⟨1, 1⟩⟩, "two.xml"⟩]
            success := true }) ∧
      ∀ location, last.volume.get? location = final.volume.get? location := by
  have sound : quartetVolume.WellFormedAt [] := ⟨⟨by decide, by decide, by decide⟩, rfl⟩
  have evaluated : (run { volume := quartetVolume } []
      (quartetSettings ["one.xml", "two.xml", "three.xml", "four.xml"])).2.toOption = some
      { settings := quartetSettings ["one.xml", "two.xml", "three.xml", "four.xml"]
        generated := [⟨.relative, ["docs", "one.md"]⟩, ⟨.relative, ["docs", "three.md"]⟩]
        warnings := [⟨⟨"x", ⟨1, 1⟩⟩, "two.xml"⟩, ⟨⟨"y", ⟨1, 1⟩⟩, "four.xml"⟩]
        success := true } := by
    decide +kernel
  obtain ⟨final, ran, -⟩ := exists_run_of_toOption evaluated
  have unlogged (location : Location) :
      ¬ (Journal.LogsTo { volume := quartetVolume } location) := Journal.not_logsTo rfl location
  have reordered : (quartetSettings ["four.xml", "three.xml", "two.xml", "one.xml"]).inputs.Perm
      (quartetSettings ["one.xml", "two.xml", "three.xml", "four.xml"]).inputs := by decide
  obtain ⟨documentation, last, documented, -, -, again, same⟩ :=
    inputs_can_be_reordered sound ran rfl rfl (by decide +kernel) (by decide +kernel)
      (fun source _ => unlogged _) reordered
  obtain rfl := Option.some.inj documented
  refine ⟨final, _, last, ran, again.trans ?_, fun location => same location (unlogged location)⟩
  refine congrArg (fun result => (last, Except.ok result)) ?_
  decide +kernel

end

end MemberDocs.Generation
