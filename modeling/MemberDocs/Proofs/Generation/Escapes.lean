import MemberDocs.Proofs.Collection.Merge
import MemberDocs.Proofs.Generation.EffectiveSettings
import MemberDocs.Proofs.Generation.Sequence
import MemberDocs.Proofs.Markdown.Conversion

/-! # Failures without a result

A run reports whatever is wrong with its settings, its documents and its files. What leaves it without
a result (`Unhandled`, `run_eq_error_iff`) is any fault of the search for front matter, which nothing
guards, a scalar of front matter that cannot be read, and later a value out of the range of what can
be handled: an encoding that cannot be looked up, and a path that no file system accepts.

The list is complete for the volumes of this development and for documents and front matter that are
not nested too deeply for the stack. Whatever is found in a volume can be read, so the search itself
fails for a name with the null character at most (`nullInPath_of_findBlock`). A Markdown file that may
not be read, a directory that may not be searched, or a documentation path that is neither a file nor a
directory is not part of a volume; there the search fails with the fault of the system, and that leaves
the run in the same way.
-/

namespace MemberDocs.Generation

variable {journal final : Journal} {directory : Location} {settings : Settings}

/-- A failure after front matter that a run does not report. -/
inductive Unexpected : Failure → Prop where
  | encoding {error : Xml.EncodingError} (kind : encodingKind error = .other) :
      Unexpected (.conversion (.document (.encoding error)))
  | nullInPath : Unexpected (.file .nullInPath)

theorem unexpected_file {fault : FileFault} (kind : (Failure.file fault).kind = .other) :
    Unexpected (.file fault) := by
  cases fault with
  | nullInPath => exact .nullInPath
  | refused reason path => cases kind
  | noDocumentation path => cases kind

theorem unexpected_conversion {error : Markdown.ConversionError} {bytes : List UInt8}
    (failed : Markdown.convertBytes bytes = .error error)
    (kind : (Failure.conversion error).kind = .other) : Unexpected (.conversion error) := by
  rcases Markdown.error_of_convertElement failed with ⟨reason, -, rfl⟩ | ⟨unknown, rfl⟩
  · cases reason with
    | malformed fault place => cases kind
    | encoding error => exact .encoding kind
  · cases kind

/-! ## The stages -/

theorem unexpected_of_fails {policy : TagPolicy} {output : Path → Path} {source : Path}
    {failure : Failure} (fails : Fails directory policy output journal source failure)
    (kind : failure.kind = .other) : Unexpected failure := by
  cases fails with
  | notRead unread => exact unexpected_file kind
  | notConverted read converted known => exact unexpected_conversion converted kind
  | unknownTag read converted forbidden => cases kind
  | notWritten read converted unwritten => exact unexpected_file kind

theorem unexpected_of_mergeGenerated {documentation : Path} {progress : Progress}
    {failure : Failure}
    (failed : mergeGenerated directory settings documentation progress = (final, .error failure))
    (kind : failure.kind = .other) : Unexpected failure := by
  rcases failure_of_mergeGenerated failed with rfl | ⟨fault, rfl⟩
  · cases kind
  · exact unexpected_file kind

theorem eq_of_failWith_error {started : RunResult} {failure stopped : Failure}
    (failed : (failWith journal started failure).2 = .error stopped) :
    stopped = failure ∧ failure.kind = .other := by
  unfold failWith at failed
  split at failed
  next kind => exact ⟨(Except.error.inj failed).symm, kind⟩
  next => cases failed

/-! ## The run -/

theorem Accepted.unexpected_of_stops (stages : Accepted journal directory settings)
    {worked : List (Path × Completion)} {reached after : Journal} {failure : Failure}
    (stops : stages.Stops worked reached after failure) (kind : failure.kind = .other) :
    Unexpected failure := by
  cases stops with
  | notMade unmade => exact unexpected_file kind
  | stopped made works inputs fails => exact unexpected_of_fails fails kind
  | notMerged made works inputs failed => exact unexpected_of_mergeGenerated failed kind

/-- What leaves a run without a result: the search for front matter fails, whatever its fault is, a
scalar of front matter cannot be read, or what stops the run later is unexpected. -/
inductive Unhandled (journal : Journal) (directory : Location) (settings : Settings) :
    Failure → Prop where
  | search {documentation : Path} {fault : FileFault} (accepted : settings.inputProblem? = none)
      (documented : settings.documentation = some documentation)
      (failed : FrontMatter.findBlock (journal.note (startRecord settings)).volume directory
        documentation = .error fault) :
      Unhandled journal directory settings (.file fault)
  | scalar {documentation path : Path} {block : FrontMatter.Block} {fault : Yaml.ScalarFault}
      (accepted : settings.inputProblem? = none)
      (documented : settings.documentation = some documentation)
      (found : FrontMatter.findBlock (journal.note (startRecord settings)).volume directory
        documentation = .ok (some (path, block)))
      (unread : FrontMatter.Options.ofText block.content = .error (.badScalar fault)) :
      Unhandled journal directory settings (.frontMatter (.badScalar fault))
  | later (stages : Accepted journal directory settings) {worked : List (Path × Completion)}
      {reached after : Journal} {failure : Failure}
      (stops : stages.Stops worked reached after failure) (unexpected : Unexpected failure) :
      Unhandled journal directory settings failure

theorem Unexpected.kind {failure : Failure} (unexpected : Unexpected failure) :
    failure.kind = .other := by
  cases unexpected with
  | encoding kind => exact kind
  | nullInPath => rfl

theorem unhandled_of_effectiveSettings {documentation : Path} {failure : Failure}
    (accepted : settings.inputProblem? = none)
    (documented : settings.documentation = some documentation)
    (refused : effectiveSettings (journal.note (startRecord settings)).volume directory
      documentation settings = .error failure) (kind : failure.kind ≠ .content) :
    Unhandled journal directory settings failure := by
  unfold effectiveSettings frontMatterOptions at refused
  split at refused
  next fault failed =>
    obtain rfl := Except.error.inj refused
    exact .search accepted documented failed
  next => cases refused
  next path block found =>
    split at refused
    next error unread =>
      obtain rfl := Except.error.inj refused
      cases error with
      | malformed reason => exact absurd rfl kind
      | notMapping => exact absurd rfl kind
      | badScalar fault => exact .scalar accepted documented found unread
    next => cases refused

theorem run_of_effectiveSettings {documentation : Path} {failure : Failure}
    (accepted : settings.inputProblem? = none)
    (documented : settings.documentation = some documentation)
    (refused : effectiveSettings (journal.note (startRecord settings)).volume directory
      documentation settings = .error failure) (kind : failure.kind ≠ .content) :
    (run journal directory settings).2 = .error failure := by
  rw [← snd_applyFrontMatter] at refused
  rw [run_eq_runChecked accepted documented, runChecked]
  cases applied : applyFrontMatter (journal.note (startRecord settings)) directory documentation
      settings with
  | mk prepared outcome =>
    obtain rfl : outcome = .error failure := by simpa [applied] using refused
    simp [kind]

/-- A run is left without a result exactly by what it does not handle. -/
theorem run_eq_error_iff {failure : Failure} :
    (run journal directory settings).2 = .error failure ↔
      Unhandled journal directory settings failure := by
  constructor
  · intro failed
    rcases stops_or_accepted journal directory settings with
      ⟨_, _, _, -, same⟩ | ⟨documentation, prepared, other, accepted, documented, applied, kind, same⟩ |
        ⟨⟨stages⟩⟩
    · cases (congrArg Prod.snd same).symm.trans failed
    · obtain rfl := Except.error.inj ((congrArg Prod.snd same).symm.trans failed)
      refine unhandled_of_effectiveSettings accepted documented ?_ kind
      rw [← snd_applyFrontMatter, applied]
    · rcases stages.succeeds_or_stops with
        ⟨worked, reached, after, merged, made, works, inputs, done⟩ |
          ⟨worked, reached, after, other, stops⟩
      · rw [stages.run_of_works made works inputs done] at failed
        cases failed
      · rw [stages.run_of_stops stops] at failed
        obtain ⟨rfl, kind⟩ := eq_of_failWith_error failed
        exact .later stages stops (stages.unexpected_of_stops stops kind)
  · intro unhandled
    cases unhandled with
    | @search documentation fault accepted documented failed =>
      refine run_of_effectiveSettings accepted documented ?_ (by cases fault <;> simp [Failure.kind])
      simp [effectiveSettings, frontMatterOptions, failed, Except.map]
    | scalar accepted documented found unread =>
      refine run_of_effectiveSettings accepted documented ?_ (by simp [Failure.kind])
      simp [effectiveSettings, frontMatterOptions, found, unread, Except.map]
    | later stages stops unexpected =>
      rw [stages.run_of_stops stops]
      simp [failWith, unexpected.kind]

/-! ## The search in a volume -/

/-- Front matter is looked for in files that can be read, so that only a name that no file system has
makes the search fail. -/
theorem nullInPath_of_findBlock {volume : Volume} {documentation : Path} {fault : FileFault}
    (wellFormed : volume.WellFormed)
    (failed : FrontMatter.findBlock volume directory documentation = .error fault) :
    fault = .nullInPath := by
  have among {paths : List Path} (readable : ∀ path ∈ paths,
      (∃ content, volume.read directory path = .ok content) ∨
        volume.read directory path = .error .nullInPath)
      (failed : FrontMatter.findBlockAmong volume directory paths = .error fault) :
      fault = .nullInPath := by
    induction paths with
    | nil => cases failed
    | cons path rest ih =>
      have later := ih fun other member => readable other (List.mem_cons_of_mem _ member)
      unfold FrontMatter.findBlockAmong FrontMatter.readBlock at failed
      rcases readable path List.mem_cons_self with ⟨content, read⟩ | refused
      · rw [read] at failed
        simp only [Except.map, bind, Except.bind] at failed
        split at failed
        next =>
          split at failed
          next => exact later failed
          next => cases failed
        next => exact later failed
      · rw [refused] at failed
        exact (Except.error.inj failed).symm
  unfold FrontMatter.findBlock at failed
  split at failed
  next there =>
    obtain ⟨entry, found⟩ := Option.isSome_iff_exists.mp there
    rw [Collection.discover_eq_ok_iff.mpr ⟨⟨entry, found⟩, rfl⟩] at failed
    exact among (fun path => Collection.read_of_mem_documentationFiles wellFormed found) failed
  next => cases failed

end MemberDocs.Generation
