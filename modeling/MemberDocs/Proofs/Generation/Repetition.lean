import MemberDocs.Proofs.Generation.Completion
import MemberDocs.Proofs.Volume.Persistence

/-! # Inputs that are worked through again

What inputs write is the last text of each location, and nothing else changes (`Works.get?_eq`). If no
input has been written over, each one can be worked through again with what has become of it
(`Works.settled`), and then it writes what is already there (`Settled.works_again`).
-/

namespace MemberDocs.Generation

variable {directory : Location} {policy : TagPolicy} {output : Path → Path}
  {first last : Journal} {worked : List (Path × Completion)}

/-! ## What is written in the end -/

/-- The last of some texts that are written to paths which mean a location. -/
def textAt? (directory location : Location) : List (Path × String) → Option String
  | [] => none
  | (path, text) :: rest =>
    (textAt? directory location rest).or
      (if path.resolve directory = location then some text else none)

/-- A location has a text if it is meant by one of the paths. -/
theorem exists_textAt?_iff {location : Location} {texts : List (Path × String)} :
    (∃ text, textAt? directory location texts = some text) ↔
      location ∈ (texts.map Prod.fst).map (·.resolve directory) := by
  induction texts with
  | nil => simp [textAt?]
  | cons entry rest ih =>
    obtain ⟨path, text⟩ := entry
    rw [List.map_cons, List.map_cons, List.mem_cons, ← ih, textAt?]
    cases textAt? directory location rest with
    | some later => simp
    | none =>
      by_cases here : path.resolve directory = location
      · simp [here]
      · simp [here, Ne.symm here]

theorem Completes.logFile_eq {before after : Journal} {source : Path} {completion : Completion}
    (step : Completes directory policy output before source completion after) :
    after.logFile = before.logFile := by
  cases step <;> rfl

theorem Works.logFile_eq (works : Works directory policy output first worked last) :
    last.logFile = first.logFile := by
  induction works with
  | nil => rfl
  | cons step others ih => exact ih.trans step.logFile_eq

/-- Inputs leave at each location but that of the log file the last text that is written to it, or
what was there. -/
theorem Works.get?_eq_of_quiet (works : Works directory policy output first worked last)
    {location : Location} (quiet : ¬ first.LogsTo location) :
    last.volume.get? location =
      ((textAt? directory location (renderings output worked)).map fun text =>
        FileEntry.file (Text.encodeUtf8 text)).or (first.volume.get? location) := by
  induction works with
  | nil journal => simp [textAt?]
  | @cons before next last source completion rest step others ih =>
    rw [ih (by rwa [Journal.LogsTo, step.logFile_eq])]
    cases step with
    | skipped read converted allowed =>
      rw [renderings_skipped, Journal.get?_note _ quiet]
    | @generated bytes markdown volume read converted written =>
      obtain ⟨-, -, notDirectory, puts⟩ := Volume.write_eq_ok_iff.mp written
      rw [renderings_generated, textAt?, @Journal.get?_note { before with volume } _ _ quiet, puts]
      cases textAt? directory location (renderings output rest) with
      | some later => simp
      | none =>
        by_cases here : (output source).resolve directory = location
        · have notTop : (output source).resolve directory ≠ [] := by
            intro top
            simp [top] at notDirectory
          subst here
          simp [Volume.get?_put_self _ notTop]
        · simp [here, Volume.get?_put_of_ne _ (Ne.symm here)]

/-- Without a log file, inputs leave at each location the last text that is written to it, or what
was there. -/
theorem Works.get?_eq (works : Works directory policy output first worked last)
    (unlogged : first.logFile = none) (location : Location) :
    last.volume.get? location =
      ((textAt? directory location (renderings output worked)).map fun text =>
        FileEntry.file (Text.encodeUtf8 text)).or (first.volume.get? location) :=
  works.get?_eq_of_quiet (Journal.not_logsTo unlogged location)

/-! ## What can be repeated -/

section

variable (directory : Location) (policy : TagPolicy) (output : Path → Path)

/-- An input that becomes, in a volume where its file is there already, what it has become. -/
inductive Repeats (volume : Volume) (source : Path) : Completion → Prop where
  | generated {bytes held : List UInt8} {markdown : String}
      (read : volume.read directory source = .ok bytes)
      (converted : Markdown.convertBytes bytes = .ok markdown)
      (noNull : (output source).hasNull = false)
      (targeted : volume.target directory (output source) =
        .ok ((output source).resolve directory))
      (there : volume.get? ((output source).resolve directory) = some (.file held)) :
      Repeats volume source (.generated markdown)
  | skipped {bytes : List UInt8} {tag : Markdown.UnknownTag}
      (read : volume.read directory source = .ok bytes)
      (converted : Markdown.convertBytes bytes = .error (.rendering (.unknownTag tag)))
      (allowed : policy = .warn) :
      Repeats volume source (.skipped ⟨tag, source.text⟩)

end

/-- An input goes on to be repeatable as long as it is not changed. -/
theorem Repeats.evolves {made changed : Location → Prop} {before after : Volume} {source : Path}
    {completion : Completion} (repeatable : Repeats directory policy output before source completion)
    (evolves : Volume.Evolves made changed before after)
    (apart : ¬ changed (source.resolve directory)) :
    Repeats directory policy output after source completion := by
  cases repeatable with
  | skipped read converted allowed =>
    exact .skipped (evolves.read_eq apart read) converted allowed
  | generated read converted noNull targeted there =>
    obtain ⟨later, stays⟩ := evolves.files _ _ there
    exact .generated (evolves.read_eq apart read) converted noNull
      (evolves.target_eq targeted) stays

/-- A repeatable input does not stop the run. -/
theorem exists_completes_of_repeats {journal : Journal} {source : Path} {completion : Completion}
    (repeatable : Repeats directory policy output journal.volume source completion) :
    ∃ after, Completes directory policy output journal source completion after := by
  cases repeatable with
  | skipped read converted allowed => exact ⟨_, .skipped read converted allowed⟩
  | @generated bytes held markdown read converted noNull targeted there =>
    exact ⟨_, .generated read converted
      (Volume.write_eq_ok_iff.mpr ⟨noNull, targeted, by simp [there], rfl⟩)⟩

theorem Completes.repeats {before after : Journal} {source : Path} {completion : Completion}
    (step : Completes directory policy output before source completion after)
    (sound : before.volume.WellFormedAt directory) (unlogged : before.logFile = none)
    (apart : source.resolve directory ∉
      (generatedPaths output [(source, completion)]).map (·.resolve directory)) :
    Repeats directory policy output after.volume source completion := by
  cases step with
  | skipped read converted allowed =>
    rw [Journal.volume_note _ unlogged]
    exact .skipped read converted allowed
  | @generated bytes markdown volume read converted written =>
    rw [@Journal.volume_note { before with volume } _ unlogged]
    obtain ⟨evolves, holds⟩ := Volume.evolves_of_write sound written
    obtain ⟨noNull, targeted, -, -⟩ := Volume.write_eq_ok_iff.mp written
    exact .generated (evolves.read_eq (by simpa using apart) read) converted noNull
      (evolves.target_eq targeted) holds

/-- Inputs that have not been written over can be repeated when they have been worked through. -/
theorem Works.repeats (works : Works directory policy output first worked last)
    (sound : first.volume.WellFormedAt directory) (unlogged : first.logFile = none)
    (apart : ∀ entry ∈ worked, entry.1.resolve directory ∉
      (generatedPaths output worked).map (·.resolve directory)) :
    ∀ entry ∈ worked, Repeats directory policy output last.volume entry.1 entry.2 := by
  induction works with
  | nil journal => simp
  | @cons before next last source completion rest step others ih =>
    simp only [generatedPaths_cons output (source, completion) rest, List.map_append,
      List.mem_append, not_or] at apart
    have soundNext := (step.writes sound).wellFormedAt sound
    have unloggedNext := step.logFile_eq.trans unlogged
    intro entry member
    rcases List.mem_cons.mp member with rfl | later
    · obtain ⟨apartHere, apartLater⟩ := apart _ member
      refine (step.repeats sound unlogged apartHere).evolves (others.writes soundNext).volume ?_
      exact not_or.mpr ⟨apartLater, Journal.not_logsTo unloggedNext _⟩
    · exact ih soundNext unloggedNext
        (fun other listed => (apart other (List.mem_cons_of_mem _ listed)).2) entry later

/-- Repeatable inputs that are not written over are worked through once more. -/
theorem works_of_repeats (sound : first.volume.WellFormedAt directory)
    (unlogged : first.logFile = none)
    (apart : ∀ entry ∈ worked, entry.1.resolve directory ∉
      (generatedPaths output worked).map (·.resolve directory))
    (repeatable : ∀ entry ∈ worked,
      Repeats directory policy output first.volume entry.1 entry.2) :
    ∃ last, Works directory policy output first worked last := by
  induction worked generalizing first with
  | nil => exact ⟨first, .nil first⟩
  | cons entry rest ih =>
    obtain ⟨source, completion⟩ := entry
    simp only [generatedPaths_cons output (source, completion) rest, List.map_append,
      List.mem_append, not_or] at apart
    obtain ⟨next, step⟩ := exists_completes_of_repeats (repeatable _ List.mem_cons_self)
    have writes := step.writes sound
    obtain ⟨last, others⟩ := ih (writes.wellFormedAt sound) (step.logFile_eq.trans unlogged)
      (fun other listed => (apart other (List.mem_cons_of_mem _ listed)).2)
      fun other listed => (repeatable other (List.mem_cons_of_mem _ listed)).evolves writes.volume
        (not_or.mpr ⟨(apart other (List.mem_cons_of_mem _ listed)).1,
          Journal.not_logsTo unlogged _⟩)
    exact ⟨last, .cons step others⟩

/-! ## Settled volumes -/

/-- A volume that inputs have left, apart from what they were generated into. -/
structure Settled (directory : Location) (policy : TagPolicy) (output : Path → Path)
    (worked : List (Path × Completion)) (volume : Volume) : Prop where
  apart : ∀ entry ∈ worked, entry.1.resolve directory ∉
    (generatedPaths output worked).map (·.resolve directory)
  repeatable : ∀ entry ∈ worked, Repeats directory policy output volume entry.1 entry.2
  held : ∀ location text, textAt? directory location (renderings output worked) = some text →
    volume.get? location = some (.file (Text.encodeUtf8 text))

theorem Works.settled (works : Works directory policy output first worked last)
    (sound : first.volume.WellFormedAt directory) (unlogged : first.logFile = none)
    (apart : ∀ entry ∈ worked, entry.1.resolve directory ∉
      (generatedPaths output worked).map (·.resolve directory)) :
    Settled directory policy output worked last.volume := by
  refine ⟨apart, works.repeats sound unlogged apart, fun location text written => ?_⟩
  rw [works.get?_eq unlogged, written]
  rfl

namespace Settled

variable {volume : Volume}

/-- What is changed elsewhere leaves a volume settled. -/
theorem evolves {made changed : Location → Prop} {after : Volume}
    (settled : Settled directory policy output worked volume)
    (evolves : Volume.Evolves made changed volume after)
    (inputsApart : ∀ entry ∈ worked, ¬ changed (entry.1.resolve directory))
    (generatedApart : ∀ path ∈ generatedPaths output worked, ¬ changed (path.resolve directory)) :
    Settled directory policy output worked after := by
  refine ⟨settled.apart, fun entry member =>
    (settled.repeatable entry member).evolves evolves (inputsApart entry member), ?_⟩
  intro location text written
  obtain ⟨path, listed, rfl⟩ := List.mem_map.mp (exists_textAt?_iff.mp ⟨text, written⟩)
  exact evolves.get?_of_apart (generatedApart path listed) (settled.held _ text written)

/-- On a settled volume the inputs are worked through once more, which changes nothing. -/
theorem works_again (settled : Settled directory policy output worked first.volume)
    (sound : first.volume.WellFormedAt directory) (unlogged : first.logFile = none) :
    ∃ last, Works directory policy output first worked last ∧
      ∀ location, last.volume.get? location = first.volume.get? location := by
  obtain ⟨last, works⟩ := works_of_repeats sound unlogged settled.apart settled.repeatable
  refine ⟨last, works, fun location => ?_⟩
  rw [works.get?_eq unlogged]
  cases written : textAt? directory location (renderings output worked) with
  | none => simp
  | some text => simp [settled.held location text written]

end Settled

end MemberDocs.Generation
