import MemberDocs.Proofs.Generation.Progress

/-! # Inputs that are worked through

An input is generated, or it is skipped because of a tag without a rule, or it stops the run
(`completes_or_fails`). Each of the three is told by what its document holds and by the volume of the
moment (`Completes`, `Fails`), so all inputs are a fold of such steps (`Works`), which ends before
the first input that fails (`works_or_fails`). What comes after that input counts for nothing
(`generateAll_of_fails`).
-/

namespace MemberDocs.Generation

/-- What has become of an input that did not stop the run. -/
inductive Completion where
  | generated (markdown : String)
  | skipped (report : TagReport)

def Completion.markdown? : Completion → Option String
  | generated markdown => some markdown
  | skipped _ => none

def Completion.report? : Completion → Option TagReport
  | generated _ => none
  | skipped report => some report

/-- The files that inputs have been generated into, with their texts. -/
def renderings (output : Path → Path) (worked : List (Path × Completion)) :
    List (Path × String) :=
  worked.filterMap fun entry => entry.2.markdown?.map fun markdown => (output entry.1, markdown)

def generatedPaths (output : Path → Path) (worked : List (Path × Completion)) : List Path :=
  (renderings output worked).map Prod.fst

def skippedReports (worked : List (Path × Completion)) : List TagReport :=
  worked.filterMap (·.2.report?)

section

variable (output : Path → Path) (source : Path) (rest : List (Path × Completion))

@[simp] theorem renderings_nil : renderings output [] = [] := rfl

@[simp] theorem renderings_generated (markdown : String) :
    renderings output ((source, .generated markdown) :: rest) =
      (output source, markdown) :: renderings output rest := rfl

@[simp] theorem renderings_skipped (report : TagReport) :
    renderings output ((source, .skipped report) :: rest) = renderings output rest := rfl

@[simp] theorem generatedPaths_nil : generatedPaths output [] = [] := rfl

@[simp] theorem generatedPaths_generated (markdown : String) :
    generatedPaths output ((source, .generated markdown) :: rest) =
      output source :: generatedPaths output rest := rfl

@[simp] theorem generatedPaths_skipped (report : TagReport) :
    generatedPaths output ((source, .skipped report) :: rest) = generatedPaths output rest := rfl

@[simp] theorem skippedReports_nil : skippedReports [] = [] := rfl

@[simp] theorem skippedReports_generated (markdown : String) :
    skippedReports ((source, .generated markdown) :: rest) = skippedReports rest := rfl

@[simp] theorem skippedReports_skipped (report : TagReport) :
    skippedReports ((source, .skipped report) :: rest) = report :: skippedReports rest := rfl

end

theorem generatedPaths_cons (output : Path → Path) (entry : Path × Completion)
    (rest : List (Path × Completion)) :
    generatedPaths output (entry :: rest) =
      generatedPaths output [entry] ++ generatedPaths output rest := by
  obtain ⟨source, _ | _⟩ := entry <;> rfl

theorem generatedPaths_append (output : Path → Path) (first second : List (Path × Completion)) :
    generatedPaths output (first ++ second) =
      generatedPaths output first ++ generatedPaths output second := by
  simp [generatedPaths, renderings]

theorem exists_source_of_mem_generatedPaths {output : Path → Path}
    {worked : List (Path × Completion)} {path : Path}
    (among : path ∈ generatedPaths output worked) :
    ∃ source ∈ worked.map Prod.fst, path = output source := by
  rw [generatedPaths, List.mem_map] at among
  obtain ⟨rendering, listed, rfl⟩ := among
  obtain ⟨entry, member, given⟩ := List.mem_filterMap.mp listed
  obtain ⟨markdown, -, rfl⟩ := Option.map_eq_some_iff.mp given
  exact ⟨entry.1, List.mem_map_of_mem member, rfl⟩

theorem skippedReports_append (first second : List (Path × Completion)) :
    skippedReports (first ++ second) = skippedReports first ++ skippedReports second :=
  List.filterMap_append

theorem length_generatedPaths_add (output : Path → Path) (worked : List (Path × Completion)) :
    (generatedPaths output worked).length + (skippedReports worked).length = worked.length := by
  induction worked with
  | nil => rfl
  | cons entry rest ih =>
    obtain ⟨source, _ | _⟩ := entry
    all_goals
      simp only [generatedPaths_generated, generatedPaths_skipped, skippedReports_generated,
        skippedReports_skipped, List.length_cons]
      omega

def generatedRecord (source output : Path) : LogRecord :=
  { level := .info, source := .run
    message := "Generated " ++ output.text ++ " from " ++ source.text }

def skipRecord (report : TagReport) : LogRecord :=
  { level := .warning, source := .run, message := report.message ++ "; file skipped" }

section

variable (directory : Location) (policy : TagPolicy) (output : Path → Path)

/-- An input that does not stop the run, with the journal before it and after it. -/
inductive Completes (before : Journal) (source : Path) : Completion → Journal → Prop where
  | generated {bytes : List UInt8} {markdown : String} {volume : Volume}
      (read : before.volume.read directory source = .ok bytes)
      (converted : Markdown.convertBytes bytes = .ok markdown)
      (written : before.volume.write directory (output source) (Text.encodeUtf8 markdown) =
        .ok volume) :
      Completes before source (.generated markdown)
        (Journal.note { before with volume } (generatedRecord source (output source)))
  | skipped {bytes : List UInt8} {tag : Markdown.UnknownTag}
      (read : before.volume.read directory source = .ok bytes)
      (converted : Markdown.convertBytes bytes = .error (.rendering (.unknownTag tag)))
      (allowed : policy = .warn) :
      Completes before source (.skipped ⟨tag, source.text⟩)
        (before.note (skipRecord ⟨tag, source.text⟩))

/-- An input that stops the run. It has changed nothing. -/
inductive Fails (before : Journal) (source : Path) : Failure → Prop where
  | notRead {fault : FileFault} (unread : before.volume.read directory source = .error fault) :
      Fails before source (.file fault)
  | notConverted {bytes : List UInt8} {error : Markdown.ConversionError}
      (read : before.volume.read directory source = .ok bytes)
      (converted : Markdown.convertBytes bytes = .error error)
      (known : ∀ tag, error ≠ .rendering (.unknownTag tag)) :
      Fails before source (.conversion error)
  | unknownTag {bytes : List UInt8} {tag : Markdown.UnknownTag}
      (read : before.volume.read directory source = .ok bytes)
      (converted : Markdown.convertBytes bytes = .error (.rendering (.unknownTag tag)))
      (forbidden : policy = .error) :
      Fails before source (.unknownTag ⟨tag, source.text⟩)
  | notWritten {bytes : List UInt8} {markdown : String} {fault : FileFault}
      (read : before.volume.read directory source = .ok bytes)
      (converted : Markdown.convertBytes bytes = .ok markdown)
      (unwritten : before.volume.write directory (output source) (Text.encodeUtf8 markdown) =
        .error fault) :
      Fails before source (.file fault)

/-- Inputs that are worked through one after the other. -/
inductive Works : Journal → List (Path × Completion) → Journal → Prop where
  | nil (journal : Journal) : Works journal [] journal
  | cons {first next last : Journal} {source : Path} {completion : Completion}
      {rest : List (Path × Completion)}
      (step : Completes directory policy output first source completion next)
      (others : Works next rest last) : Works first ((source, completion) :: rest) last

end

/-- A progress with more inputs worked through. -/
def Progress.advance (progress : Progress) (output : Path → Path)
    (worked : List (Path × Completion)) (journal : Journal) : Progress where
  journal := journal
  generated := progress.generated ++ generatedPaths output worked
  warnings := progress.warnings ++ skippedReports worked

variable {directory : Location} {policy : TagPolicy} {output : Path → Path} {progress : Progress}

/-! ## One input -/

theorem completes_or_fails (directory : Location) (policy : TagPolicy) (output : Path → Path)
    (before : Journal) (source : Path) :
    (∃ completion after, Completes directory policy output before source completion after) ∨
      ∃ failure, Fails directory policy output before source failure := by
  cases read : before.volume.read directory source with
  | error fault => exact Or.inr ⟨_, .notRead read⟩
  | ok bytes =>
    cases converted : Markdown.convertBytes bytes with
    | ok markdown =>
      cases written : before.volume.write directory (output source)
          (Text.encodeUtf8 markdown) with
      | ok volume => exact Or.inl ⟨_, _, .generated read converted written⟩
      | error fault => exact Or.inr ⟨_, .notWritten read converted written⟩
    | error error =>
      by_cases unknown : ∃ tag, error = .rendering (.unknownTag tag)
      · obtain ⟨tag, rfl⟩ := unknown
        cases policy with
        | warn => exact Or.inl ⟨_, _, .skipped read converted rfl⟩
        | error => exact Or.inr ⟨_, .unknownTag read converted rfl⟩
      · exact Or.inr ⟨_, .notConverted read converted fun tag same => unknown ⟨tag, same⟩⟩

theorem generateNext_of_completes {source : Path} {completion : Completion} {after : Journal}
    (step : Completes directory policy output progress.journal source completion after) :
    generateNext directory policy output progress source =
      (progress.advance output [(source, completion)] after, none) := by
  cases step with
  | generated read converted written =>
    simp [generateNext, generateFile, read, converted, written, Progress.advance, generatedRecord]
  | skipped read converted allowed =>
    simp [generateNext, generateFile, read, converted, allowed, Progress.advance, Progress.skip,
      skipRecord]

theorem generateNext_of_fails {source : Path} {failure : Failure}
    (stopped : Fails directory policy output progress.journal source failure) :
    generateNext directory policy output progress source = (progress, some failure) := by
  cases stopped with
  | notRead unread => simp [generateNext, generateFile, unread]
  | unknownTag read converted forbidden =>
    simp [generateNext, generateFile, read, converted, forbidden]
  | notWritten read converted unwritten =>
    simp [generateNext, generateFile, read, converted, unwritten]
  | @notConverted bytes error read converted known =>
    cases error with
    | document error => simp [generateNext, generateFile, read, converted]
    | rendering error =>
      cases error with
      | unknownTag tag => exact absurd rfl (known tag)
      | emptySlot slot => simp [generateNext, generateFile, read, converted]

/-! ## All inputs -/

/-- The inputs are worked through up to the end, or up to one that fails. -/
theorem works_or_fails (directory : Location) (policy : TagPolicy) (output : Path → Path)
    (journal : Journal) (sources : List Path) :
    ∃ worked last, Works directory policy output journal worked last ∧
      (sources = worked.map Prod.fst ∨ ∃ source later failure,
        sources = worked.map Prod.fst ++ source :: later ∧
          Fails directory policy output last source failure) := by
  induction sources generalizing journal with
  | nil => exact ⟨[], journal, .nil journal, Or.inl rfl⟩
  | cons source rest ih =>
    rcases completes_or_fails directory policy output journal source with
      ⟨completion, next, step⟩ | ⟨failure, stopped⟩
    · obtain ⟨worked, last, works, ends⟩ := ih next
      refine ⟨(source, completion) :: worked, last, .cons step works, ?_⟩
      rcases ends with rfl | ⟨other, later, failure, rfl, stopped⟩
      · exact Or.inl rfl
      · exact Or.inr ⟨other, later, failure, rfl, stopped⟩
    · exact ⟨[], journal, .nil journal, Or.inr ⟨source, rest, failure, rfl, stopped⟩⟩

theorem generateAll_of_works (progress : Progress) {worked : List (Path × Completion)}
    {last : Journal} (works : Works directory policy output progress.journal worked last)
    (rest : List Path) :
    generateAll directory policy output progress (worked.map Prod.fst ++ rest) =
      generateAll directory policy output (progress.advance output worked last) rest := by
  generalize start : progress.journal = first at works
  induction works generalizing progress with
  | nil journal =>
    subst start
    simp [Progress.advance]
  | @cons first next last source completion worked step others ih =>
    subst start
    rw [List.map_cons, List.cons_append, generateAll, generateNext_of_completes step]
    refine (ih (progress.advance output [(source, completion)] next) rfl).trans ?_
    congr 1
    cases completion <;> simp [Progress.advance]

/-- The first input that fails ends the fold, whatever inputs come after it. -/
theorem generateAll_of_fails (progress : Progress) {worked : List (Path × Completion)}
    {last : Journal} {source : Path} {failure : Failure}
    (works : Works directory policy output progress.journal worked last)
    (stopped : Fails directory policy output last source failure) (later : List Path) :
    generateAll directory policy output progress (worked.map Prod.fst ++ source :: later) =
      (progress.advance output worked last, some failure) := by
  have failing : generateNext directory policy output (progress.advance output worked last)
      source = (progress.advance output worked last, some failure) :=
    generateNext_of_fails stopped
  rw [generateAll_of_works progress works, generateAll, failing]

theorem Works.append {first middle last : Journal} {before after : List (Path × Completion)}
    (begins : Works directory policy output first before middle)
    (ends : Works directory policy output middle after last) :
    Works directory policy output first (before ++ after) last := by
  induction begins with
  | nil => exact ends
  | cons step _ ih => exact .cons step (ih ends)

/-- What inputs write is what has been generated from them. -/
theorem Works.writes {first last : Journal} {worked : List (Path × Completion)}
    (works : Works directory policy output first worked last)
    (sound : first.volume.WellFormedAt directory) :
    Journal.Writes (· ∈ (generatedPaths output worked).map (·.resolve directory)) first last := by
  have start : Works directory policy output (Progress.mk first [] []).journal worked last := works
  obtain ⟨fresh, listed, writes⟩ := extends_of_generateAll sound (generateAll_of_works _ start [])
  obtain rfl : generatedPaths output worked = fresh := listed
  exact writes

theorem Completes.writes {before after : Journal} {source : Path} {completion : Completion}
    (step : Completes directory policy output before source completion after)
    (sound : before.volume.WellFormedAt directory) :
    Journal.Writes (· ∈ (generatedPaths output [(source, completion)]).map (·.resolve directory))
      before after :=
  (Works.cons step (.nil after)).writes sound

end MemberDocs.Generation
