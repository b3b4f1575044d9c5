import MemberDocs.Proofs.Generation.MergedOutput
import MemberDocs.Proofs.Generation.Sequence

/-! # What generated files hold

Inputs of the same stem are generated into the same file, where the last one stays. An input that is
generated into a file of its own finds its Markdown there in the end
(`generated_files_hold_their_markdown`), and one that another input follows into its file has lost it
(`first_of_two_inputs_is_lost`).
-/

namespace MemberDocs.Generation

/-- What becomes of a document that does not stop the run. -/
def Completion.ofConversion? (source : Path) :
    Except Markdown.ConversionError String → Option Completion
  | .ok markdown => some (.generated markdown)
  | .error (.rendering (.unknownTag tag)) => some (.skipped ⟨tag, source.text⟩)
  | .error _ => none

/-- What becomes of the document that a path means. -/
def completionOf? (volume : Volume) (directory : Location) (source : Path) : Option Completion :=
  match volume.get? (source.resolve directory) with
  | some (.file bytes) => Completion.ofConversion? source (Markdown.convertBytes bytes)
  | _ => none

/-- The Markdown of the document that a path means. -/
def markdownOf? (volume : Volume) (directory : Location) (source : Path) : Option String :=
  (completionOf? volume directory source).bind Completion.markdown?

/-- The report on a tag without a rule in the document that a path means. -/
def reportOf? (volume : Volume) (directory : Location) (source : Path) : Option TagReport :=
  (completionOf? volume directory source).bind Completion.report?

variable {directory : Location} {policy : TagPolicy} {output : Path → Path}

theorem Completes.completionOf?_eq {before after : Journal} {source : Path}
    {completion : Completion}
    (step : Completes directory policy output before source completion after) :
    completionOf? before.volume directory source = some completion := by
  cases step with
  | generated read converted written =>
    rw [completionOf?, Volume.get?_of_read read]
    simp only [converted, Completion.ofConversion?]
  | skipped read converted allowed =>
    rw [completionOf?, Volume.get?_of_read read]
    simp only [converted, Completion.ofConversion?]

/-- A document that is neither written nor the log file has been as it is. -/
theorem Journal.Writes.completionOf?_eq {written : Location → Prop} {first second : Journal}
    {source : Path} {completion : Completion} (writes : Journal.Writes written first second)
    (apart : ¬ written (source.resolve directory))
    (quiet : ¬ first.LogsTo (source.resolve directory))
    (later : completionOf? second.volume directory source = some completion) :
    completionOf? first.volume directory source = some completion := by
  unfold completionOf? at later ⊢
  split at later
  next bytes there =>
    rw [writes.get?_of_not_written apart quiet there]
    exact later
  next => cases later

namespace Works

variable {first last : Journal} {worked : List (Path × Completion)}

/-- Inputs that are not written are worked through as their documents were at the start. -/
theorem completionOf?_eq (works : Works directory policy output first worked last)
    (sound : first.volume.WellFormedAt directory)
    (apart : ∀ entry ∈ worked, entry.1.resolve directory ∉
      (generatedPaths output worked).map (·.resolve directory))
    (quiet : ∀ entry ∈ worked, ¬ first.LogsTo (entry.1.resolve directory))
    {entry : Path × Completion} (member : entry ∈ worked) :
    completionOf? first.volume directory entry.1 = some entry.2 := by
  induction works with
  | nil journal => simp at member
  | @cons before next last source completion rest step others ih =>
    simp only [generatedPaths_cons output (source, completion) rest, List.map_append,
      List.mem_append, not_or] at apart
    rcases List.mem_cons.mp member with rfl | later
    · exact step.completionOf?_eq
    · have writes := step.writes sound
      refine writes.completionOf?_eq (apart entry member).1 (quiet entry member)
        (ih (writes.wellFormedAt sound) ?_ ?_ later)
      · exact fun other listed => (apart other (List.mem_cons_of_mem _ listed)).2
      · intro other listed
        rw [writes.logsTo_iff]
        exact quiet other (List.mem_cons_of_mem _ listed)

/-- A file holds the text of the last input that is generated into it. -/
theorem get?_of_last (works : Works directory policy output first worked last)
    (sound : first.volume.WellFormedAt directory) {i : ℕ} {path : Path} {text : String}
    (listed : (renderings output worked)[i]? = some (path, text))
    (isLast : ∀ j later, i < j → (generatedPaths output worked)[j]? = some later →
      later.resolve directory ≠ path.resolve directory)
    (quiet : ¬ first.LogsTo (path.resolve directory)) :
    last.volume.get? (path.resolve directory) = some (.file (Text.encodeUtf8 text)) := by
  induction works generalizing i with
  | nil journal => simp at listed
  | @cons before next last source completion rest step others ih =>
    have writes := step.writes sound
    have soundNext := writes.wellFormedAt sound
    have quietNext : ¬ next.LogsTo (path.resolve directory) := by rwa [writes.logsTo_iff]
    cases step with
    | skipped read converted allowed =>
      rw [renderings_skipped] at listed
      rw [generatedPaths_skipped] at isLast
      exact ih soundNext listed isLast quietNext
    | @generated bytes markdown volume read converted written =>
      rw [renderings_generated] at listed
      rw [generatedPaths_generated] at isLast
      cases i with
      | succ i =>
        refine ih soundNext (by simpa using listed) (fun j later less found => ?_) quietNext
        exact isLast (j + 1) later (by omega) (by simpa using found)
      | zero =>
        obtain ⟨rfl, rfl⟩ : output source = path ∧ markdown = text := by simpa using listed
        have holds := (Volume.evolves_of_write sound written).2
        have apart : (output source).resolve directory ∉
            (generatedPaths output rest).map (·.resolve directory) := by
          intro again
          obtain ⟨later, member, same⟩ := List.mem_map.mp again
          obtain ⟨j, found⟩ := List.mem_iff_getElem?.mp member
          exact isLast (j + 1) later (by omega) (by simpa using found) same
        refine (others.writes soundNext).get?_of_apart apart quietNext ?_
        rwa [Journal.get?_note]
        exact quiet

end Works

variable {journal final : Journal} {settings : Settings} {result : RunResult}

/-- Inputs that are not written are worked through as their documents were before the run. -/
theorem Accepted.completionOf?_eq (stages : Accepted journal directory settings)
    (sound : journal.volume.WellFormedAt directory) {worked : List (Path × Completion)}
    {reached : Journal}
    (works : Works directory stages.effective.policy stages.output stages.ready worked reached)
    (apart : ∀ entry ∈ worked, entry.1.resolve directory ∉
      (generatedPaths stages.output worked).map (·.resolve directory))
    (quiet : ∀ entry ∈ worked, ¬ journal.LogsTo (entry.1.resolve directory)) :
    ∀ entry ∈ worked, completionOf? journal.volume directory entry.1 = some entry.2 := by
  intro entry member
  have prepares := stages.writes_ready sound
  refine prepares.completionOf?_eq id (quiet entry member)
    (works.completionOf?_eq (prepares.wellFormedAt sound) apart ?_ member)
  intro other listed
  rw [prepares.logsTo_iff]
  exact quiet other listed

theorem filterMap_markdownOf? {volume : Volume} (output : Path → Path)
    {worked : List (Path × Completion)}
    (documents : ∀ entry ∈ worked, completionOf? volume directory entry.1 = some entry.2) :
    (worked.map Prod.fst).filterMap (markdownOf? volume directory) =
      (renderings output worked).map Prod.snd := by
  rw [List.filterMap_map, renderings, List.map_filterMap]
  refine List.filterMap_congr fun entry member => ?_
  simp [markdownOf?, documents entry member]

theorem filterMap_reportOf? {volume : Volume} {worked : List (Path × Completion)}
    (documents : ∀ entry ∈ worked, completionOf? volume directory entry.1 = some entry.2) :
    (worked.map Prod.fst).filterMap (reportOf? volume directory) = skippedReports worked := by
  rw [List.filterMap_map, skippedReports]
  refine List.filterMap_congr fun entry member => ?_
  simp [reportOf?, documents entry member]

/-- A merge writes the file that it reports. -/
theorem writes_of_mergeGenerated {documentation : Path} {progress : Progress}
    {merged : Option Path} (sound : progress.journal.volume.WellFormedAt directory)
    (done : mergeGenerated directory settings documentation progress = (final, .ok merged)) :
    Journal.Writes (fun location => ∃ path ∈ merged, location = path.resolve directory)
      progress.journal final := by
  rcases cases_of_mergeGenerated done with ⟨-, rfl, -⟩ | ⟨output, after, rfl, -, -, mergedTo, rfl⟩
  · exact .refl _ _
  · obtain ⟨_, noted, _, -, notes, -, puts, -⟩ := Collection.merge_spec sound mergedTo
    have writes := (notes.mono fun _ => False.elim).trans puts
    have ends := Journal.writes_note (writes.wellFormedAt sound).wellFormed (mergedRecord output)
    refine (writes.trans (ends.mono fun _ => False.elim)).mono fun location here => ?_
    exact ⟨output, rfl, here⟩

/-- If a run succeeds without writing over an input or merging into a generated file, each generated
file that no later input is generated into holds in the end the Markdown of the document that its
input was before the run. The inputs that are not generated are those that are reported. -/
theorem generated_files_hold_their_markdown (sound : journal.volume.WellFormedAt directory)
    (ran : run journal directory settings = (final, .ok result)) (succeeded : result.success)
    (inputsApart : ∀ source ∈ settings.inputs, ∀ path ∈ result.generated,
      source.resolve directory ≠ path.resolve directory)
    (mergedApart : ∀ merged ∈ result.merged, ∀ path ∈ result.generated,
      path.resolve directory ≠ merged.resolve directory)
    (quiet : ∀ path ∈ settings.inputs ++ result.generated,
      ¬ journal.LogsTo (path.resolve directory)) :
    ∃ texts, texts = settings.inputs.filterMap (markdownOf? journal.volume directory) ∧
      result.warnings = settings.inputs.filterMap (reportOf? journal.volume directory) ∧
      texts.length = result.generated.length ∧
      texts.length + result.warnings.length = settings.inputs.length ∧
      ∀ (i : ℕ) (path : Path) (text : String), result.generated[i]? = some path →
        texts[i]? = some text →
        (∀ (j : ℕ) (later : Path), i < j → result.generated[j]? = some later →
          later.resolve directory ≠ path.resolve directory) →
        final.volume.get? (path.resolve directory) = some (.file (Text.encodeUtf8 text)) := by
  obtain ⟨stages, worked, reached, -, works, inputs, done, listed⟩ :=
    works_of_success ran succeeded
  have generated : result.generated = generatedPaths stages.output worked := by rw [listed]; rfl
  have skipped : result.warnings = skippedReports worked := by rw [listed]; rfl
  rw [generated] at inputsApart mergedApart quiet ⊢
  rw [inputs] at inputsApart quiet ⊢
  have documents := stages.completionOf?_eq sound works
    (fun entry member hit => by
      obtain ⟨path, made, same⟩ := List.mem_map.mp hit
      exact inputsApart entry.1 (List.mem_map_of_mem member) path made same.symm)
    (fun entry member => quiet entry.1 (List.mem_append_left _ (List.mem_map_of_mem member)))
  have counted := length_generatedPaths_add stages.output worked
  rw [filterMap_markdownOf? stages.output documents, filterMap_reportOf? documents, skipped]
  refine ⟨_, rfl, rfl, ?_, ?_, ?_⟩
  · simp [generatedPaths]
  · simpa [generatedPaths] using counted
  · intro i path text made written isLast
    have quietPath := quiet path (List.mem_append_right _ (List.mem_of_getElem? made))
    have prepares := stages.writes_ready sound
    have soundReady := prepares.wellFormedAt sound
    have writes := works.writes soundReady
    have reads : (renderings stages.output worked)[i]? = some (path, text) := by
      simp only [generatedPaths, List.getElem?_map, Option.map_eq_some_iff] at made written
      obtain ⟨entry, there, rfl⟩ := made
      obtain ⟨other, again, rfl⟩ := written
      obtain rfl := Option.some.inj (there.symm.trans again)
      exact there
    have holds := works.get?_of_last soundReady reads isLast (by rwa [prepares.logsTo_iff])
    refine (writes_of_mergeGenerated (writes.wellFormedAt soundReady) done).get?_of_apart ?_ ?_ holds
    · rintro ⟨merged, reported, same⟩
      exact mergedApart merged reported path (List.mem_of_getElem? made) same
    · intro logs
      exact quietPath ((stages.logsTo_iff_of_works sound works _).mp logs)

/-- Two inputs of the same stem, in two directories. -/
def namesakesVolume : Volume :=
  ⟨[(["one"], .directory), (["one", "api.xml"], .file (Text.encodeUtf8 "<c>1</c>")),
    (["two"], .directory), (["two", "api.xml"], .file (Text.encodeUtf8 "<c>2</c>"))]⟩

def namesakesSettings : Settings :=
  { inputs := [⟨.relative, ["one", "api.xml"]⟩, ⟨.relative, ["two", "api.xml"]⟩]
    documentation := some ⟨.relative, ["docs"]⟩ }

def namesakesResult : RunResult :=
  { settings := namesakesSettings
    generated := [⟨.relative, ["docs", "api.md"]⟩, ⟨.relative, ["docs", "api.md"]⟩]
    success := true }

theorem second_of_two_inputs_is_kept :
    ∃ final, run { volume := namesakesVolume } [] namesakesSettings = (final, .ok namesakesResult) ∧
      final.volume.get? ["docs", "api.md"] = some (.file (Text.encodeUtf8 " `2` ")) := by
  have sound : namesakesVolume.WellFormedAt [] := ⟨⟨by decide, by decide, by decide⟩, rfl⟩
  have evaluated : (run { volume := namesakesVolume } [] namesakesSettings).2.toOption =
      some namesakesResult := by decide +kernel
  obtain ⟨final, ran, -⟩ := exists_run_of_toOption evaluated
  obtain ⟨texts, read, -, -, -, holds⟩ := generated_files_hold_their_markdown sound ran rfl
    (by decide) (by decide) (fun _ _ => Journal.not_logsTo rfl _)
  have kept : texts[1]? = some " `2` " := by
    rw [read]
    decide +kernel
  refine ⟨final, ran, holds 1 _ _ rfl kept fun j later less found => ?_⟩
  have none : namesakesResult.generated[j]? = none := List.getElem?_eq_none less
  simp [none] at found

/-- A run succeeds although the second of two inputs takes the file of the first one. -/
theorem first_of_two_inputs_is_lost :
    ∃ final path text, run { volume := namesakesVolume } [] namesakesSettings =
        (final, .ok namesakesResult) ∧ namesakesResult.success ∧ namesakesResult.merged = none ∧
      (∀ source ∈ namesakesSettings.inputs, ∀ written ∈ namesakesResult.generated,
        source.resolve [] ≠ written.resolve []) ∧
      namesakesResult.generated[0]? = some path ∧
      (namesakesSettings.inputs.filterMap (markdownOf? namesakesVolume []))[0]? = some text ∧
      final.volume.get? (path.resolve []) ≠ some (.file (Text.encodeUtf8 text)) := by
  have evaluated : (run { volume := namesakesVolume } [] namesakesSettings).2.toOption =
      some namesakesResult := by decide +kernel
  have held : (run { volume := namesakesVolume } [] namesakesSettings).1.volume.get?
      ((⟨.relative, ["docs", "api.md"]⟩ : Path).resolve []) =
        some (.file (Text.encodeUtf8 " `2` ")) := by decide +kernel
  have lost : (" `1` " : String) ∈ (namesakesSettings.inputs.filterMap
      (markdownOf? namesakesVolume []))[0]? := by decide +kernel
  obtain ⟨final, ran, same⟩ := exists_run_of_toOption evaluated
  refine ⟨final, _, " `1` ", ran, rfl, rfl, by decide, rfl, lost, ?_⟩
  rw [← same, held]
  decide

end MemberDocs.Generation
