import MemberDocs.Proofs.CommandLine.Processes
import MemberDocs.Proofs.Config.Loading
import MemberDocs.Proofs.Generation.ReportedFiles

/-! # What is told about a run

All paths of settings can be read from their texts, whether they come from the arguments or from a
configuration file (`isReadable_of_settings`). So the report on a run that succeeds tells where each of its
files is: read as a path, what is printed leads from the working directory to the file
(`report_names_the_files`). About any other run nothing is printed on the standard output.
-/

namespace MemberDocs

/-! ## Settings -/

namespace Config

open Generation (Settings)

variable {surroundings : Surroundings} {volume : Volume} {path : Path}

theorem isReadable_of_expandHome {expanded : Path} (readable : path.IsReadable)
    (expands : expandHome surroundings path = .ok expanded) : expanded.IsReadable := by
  unfold expandHome at expands
  split at expands
  next name names _ parts =>
    split at expands
    next owner _ =>
      split at expands
      next home _ =>
        obtain rfl := Except.ok.inj expands
        have below : Path.IsReadable ⟨.relative, names⟩ := fun other among =>
          readable other (parts ▸ List.mem_cons_of_mem name among)
        exact (Path.isReadable_ofString home).join below
      next => cases expands
    next =>
      obtain rfl := Except.ok.inj expands
      exact readable
  next =>
    obtain rfl := Except.ok.inj expands
    exact readable

theorem isReadable_of_locate {file : Location}
    (named : (Path.ofLocation surroundings.directory).IsReadable) (readable : path.IsReadable)
    (located : locate surroundings volume path = .ok file) : (Path.ofLocation file).IsReadable := by
  unfold locate at located
  simp only [bind, bind_eq_ok_iff] at located
  obtain ⟨expanded, expands, located⟩ := located
  have readableThere := isReadable_of_expandHome readable expands
  have usual : IsName fileName := ⟨by decide, by decide, by decide⟩
  split at located
  next => cases located
  next =>
    obtain rfl := Except.ok.inj located
    split
    next => exact (readableThere.child usual).resolve named
    next => exact readableThere.resolve named

theorem isReadable_settingsFrom {root : Path} (readable : root.IsReadable) (view : String → Yaml.View) :
    (settingsFrom root view).IsReadable := by
  have each {place : Path} (among : place ∈ pathsIn (settingsFrom root view)) : place.IsReadable := by
    obtain ⟨text, rfl⟩ := exists_of_mem_pathsIn among
    exact readable.join (Path.isReadable_ofString text)
  exact {
    inputs := fun place listed =>
      each (List.mem_append_left _ (List.mem_append_left _ listed))
    documentation := fun place listed =>
      each (List.mem_append_left _ (List.mem_append_right _ (Option.mem_toList.mpr listed)))
    output := fun place listed => each (List.mem_append_right _ (Option.mem_toList.mpr listed)) }

/-- The paths in a configuration file start at its directory. -/
theorem isReadable_of_load {settings : Settings}
    (named : (Path.ofLocation surroundings.directory).IsReadable) (readable : path.IsReadable)
    (loaded : load surroundings volume path = .ok settings) : settings.IsReadable := by
  obtain ⟨file, located⟩ : ∃ file, locate surroundings volume path = .ok file := by
    unfold load at loaded
    simp only [bind, bind_eq_ok_iff] at loaded
    obtain ⟨file, located, -⟩ := loaded
    exact ⟨file, located⟩
  rw [load_eq_of_locate located, bind_eq_ok_iff] at loaded
  obtain ⟨mapping, -, made⟩ := loaded
  obtain ⟨-, rfl⟩ := settingsOf_eq_ok_iff.mp (mapError_eq_ok_iff.mp made)
  exact isReadable_settingsFrom (isReadable_of_locate named readable located).parent _

end Config

namespace CommandLine

open Config (Surroundings)
open Generation (Failure Journal RunResult Settings)

variable {surroundings : Surroundings} {directory : Location} {session : Session} {time : String}
  {asked : GenerateArguments} {settings : Settings}

theorem isReadable_of_givenPath? {argument : Option String} {path : Path}
    (given : path ∈ givenPath? argument) : path.IsReadable := by
  obtain ⟨text, -, rfl⟩ := Option.map_eq_some_iff.mp given
  exact Path.isReadable_ofString text

theorem isReadable_override (readable : settings.IsReadable) (arguments : GenerateArguments) :
    (arguments.override settings).IsReadable where
  inputs path listed := by
    simp only [GenerateArguments.override] at listed
    split at listed
    next => exact readable.inputs path listed
    next =>
      obtain ⟨text, -, rfl⟩ := List.mem_map.mp listed
      exact Path.isReadable_ofString text
  documentation path named := by
    rcases Option.or_eq_some_iff.mp named with given | ⟨-, loaded⟩
    · exact isReadable_of_givenPath? given
    · exact readable.documentation path loaded
  output path named := by
    rcases Option.or_eq_some_iff.mp named with given | ⟨-, loaded⟩
    · exact isReadable_of_givenPath? given
    · exact readable.output path loaded

/-- **All paths of settings are read from their texts.** -/
theorem isReadable_of_settings {volume : Volume}
    (named : (Path.ofLocation surroundings.directory).IsReadable)
    (loaded : asked.settings surroundings volume = .ok settings) : settings.IsReadable := by
  obtain ⟨file, held, rfl⟩ := map_eq_ok_iff.mp loaded
  exact isReadable_override
    (Config.isReadable_of_load named (Path.isReadable_ofString asked.config) held) asked

/-! ## Reports -/

/-- A text names the file of a path: read as a path itself, it leads from the working directory to the
same file. If the file is below the working directory, it leads straight down to it. -/
structure NamesFile (volume : Volume) (directory : Location) (path : Path) (text : String) : Prop where
  meant : (Path.ofString text).resolve directory = path.resolve directory
  same : ∃ content, volume.read directory path = .ok content ∧
    volume.read directory (Path.ofString text) = .ok content
  straight : directory <+: path.resolve directory →
    (Path.ofString text).anchor = .relative ∧ ".." ∉ (Path.ofString text).parts

theorem namesFile_seenFrom {volume : Volume} {path : Path} (sound : volume.WellFormedAt directory)
    (readable : path.IsReadable) (isFile : volume.isFile directory path) :
    NamesFile volume directory path (path.seenFrom directory).text := by
  have plain := sound.wellFormed.not_mem_of_get? sound.inside
  have read := Path.ofString_text (readable.seenFrom directory)
  obtain ⟨content, done⟩ := Volume.exists_read_of_isFile isFile
  refine ⟨?_, ⟨content, done, ?_⟩, fun below => ?_⟩
  · rw [read, Path.resolve_seenFrom plain]
  · rw [read]
    exact Volume.read_seenFrom sound done
  · rw [read, Path.seenFrom_of_below below]
    exact ⟨rfl, fun up => Path.not_mem_resolve plain path (List.mem_of_mem_drop up)⟩

/-- An invocation has opened its log and loaded its settings, and a run with them has ended. -/
inductive HasRun (surroundings : Surroundings) (time : String) (session : Session)
    (invocation : Invocation) : Journal → Except Failure RunResult → Prop where
  | intro {asked : GenerateArguments} {logging : Logging} {opened : Volume} {settings : Settings}
      {journal : Journal} {outcome : Except Failure RunResult}
      (request : invocation.request = .generate asked)
      (opens : invocation.openLogging surroundings.directory time session.volume =
        .ok (logging, opened))
      (loaded : asked.settings surroundings opened = .ok settings)
      (ran : Generation.run (logging.journal opened) surroundings.directory settings =
        (journal, outcome)) :
      HasRun surroundings time session invocation journal outcome

/-- What an invocation has printed after an output about its run, and how it ends. -/
inductive Concludes (directory : Location) (output : String) :
    Except Failure RunResult → Session × Ending → Prop where
  | succeeded {result : RunResult} {final : Session} (success : result.success)
      (printed : final.output = output ++ reportText directory result) :
      Concludes directory output (.ok result) (final, .returned)
  | failed {result : RunResult} {final : Session} (failure : result.success = false)
      (silent : final.output = output) :
      Concludes directory output (.ok result) (final, .exited 1)
  | escaped {failure : Failure} {final : Session} (silent : final.output = output) :
      Concludes directory output (.error failure) (final, .escaped (.failure failure))

variable {arguments : List String} {invocation : Invocation} {journal : Journal}
  {outcome : Except Failure RunResult}

theorem concludes_runWith {logging : Logging}
    (ran : Generation.run (logging.journal session.volume) directory settings =
      (journal, outcome)) :
    (runWith session directory logging settings).1.volume = journal.volume ∧
      Concludes directory session.output outcome (runWith session directory logging settings) := by
  unfold runWith
  rw [ran]
  cases outcome with
  | error failure => exact ⟨rfl, .escaped rfl⟩
  | ok result =>
    dsimp only
    split
    next success => exact ⟨rfl, .succeeded success rfl⟩
    next failure => exact ⟨rfl, .failed (Bool.eq_false_of_not_eq_true failure) rfl⟩

theorem concludes_of_hasRun (accepted : Invocation.ofArguments arguments = .ok invocation)
    (has : HasRun surroundings time session invocation journal outcome) :
    (invoke surroundings time session arguments).1.volume = journal.volume ∧
      Concludes surroundings.directory session.output outcome
        (invoke surroundings time session arguments) := by
  cases has with
  | @intro asked logging opened settings _ _ request opens loaded ran =>
    have invoked : invoke surroundings time session arguments =
        runWith { session with volume := opened } surroundings.directory logging settings := by
      simp only [invoke, accepted, opens, Invocation.carryOut, request, generate, loaded]
    rw [invoked]
    exact concludes_runWith ran

/-- An invocation that does not come to a run prints nothing, and it does not return. -/
theorem hasRun_or_silent (accepted : Invocation.ofArguments arguments = .ok invocation)
    (request : invocation.request = .generate asked) :
    (∃ journal outcome, HasRun surroundings time session invocation journal outcome) ∨
      ((invoke surroundings time session arguments).1.output = session.output ∧
        (invoke surroundings time session arguments).2.status? ≠ some 0) := by
  simp only [invoke, accepted]
  cases opens : invocation.openLogging surroundings.directory time session.volume with
  | error fault => exact Or.inr ⟨rfl, fun returned => by cases returned⟩
  | ok entry =>
    obtain ⟨logging, opened⟩ := entry
    simp only [Invocation.carryOut, request, generate]
    cases loaded : asked.settings surroundings opened with
    | ok settings => exact Or.inl ⟨_, _, .intro request opens loaded rfl⟩
    | error error =>
      right
      dsimp only
      split
      next => exact ⟨rfl, fun returned => by cases returned⟩
      next => exact ⟨rfl, fun returned => by cases returned⟩
      next => exact ⟨rfl, fun returned => by cases returned⟩

/-- A file that is reported is named by what is printed of its path. -/
theorem namesFile_of_hasRun (sound : session.volume.WellFormedAt surroundings.directory)
    (named : (Path.ofLocation surroundings.directory).IsReadable) {result : RunResult}
    (has : HasRun surroundings time session invocation journal (.ok result))
    (succeeded : result.success) {path : Path}
    (reported : path ∈ result.generated ++ result.merged.toList) :
    NamesFile journal.volume surroundings.directory path
      (path.seenFrom surroundings.directory).text := by
  cases has with
  | @intro asked logging opened settings _ _ request opens loaded ran =>
    have soundOpened := (logOpened_of_openLogging sound opens).sound
    have soundLater : journal.volume.WellFormedAt surroundings.directory := by
      have steps := @Generation.steps_run (logging.journal opened) _ settings soundOpened
      rw [ran] at steps
      exact steps.wellFormedAt soundOpened
    exact namesFile_seenFrom soundLater
      (Generation.isReadable_of_success (isReadable_of_settings named loaded) ran succeeded reported)
      (@Generation.isFile_of_success (logging.journal opened) _ _ _ _ _ soundOpened ran succeeded
        reported)

theorem forall₂_namesFile (sound : session.volume.WellFormedAt surroundings.directory)
    (named : (Path.ofLocation surroundings.directory).IsReadable) {result : RunResult}
    (has : HasRun surroundings time session invocation journal (.ok result))
    (succeeded : result.success) {paths : List Path}
    (reported : paths ⊆ result.generated ++ result.merged.toList) :
    List.Forall₂ (NamesFile journal.volume surroundings.directory) paths
      (paths.map fun path => (path.seenFrom surroundings.directory).text) := by
  rw [List.forall₂_map_right_iff, List.forall₂_same]
  exact fun path listed => namesFile_of_hasRun sound named has succeeded (reported listed)

theorem merged_iff_of_hasRun {result : RunResult}
    (has : HasRun surroundings time session invocation journal (.ok result))
    (succeeded : result.success) (path : Path) :
    result.merged = some path ↔
      result.settings.mergesFiles ∧ result.settings.output = some path := by
  cases has with
  | intro request opens loaded ran => exact Generation.merged_iff_of_success ran succeeded path

/-- **A report names the files.** When arguments that ask for several documents are accepted and their
invocation returns, its run has succeeded. It has printed a line for each generated file in their order,
and then one for the merge if there is one. What each line tells leads from the working directory to the
file. A run that has failed ends with the status 1, and nothing is printed unless the invocation
returns. -/
theorem report_names_the_files
    (sound : session.volume.WellFormedAt surroundings.directory)
    (named : (Path.ofLocation surroundings.directory).IsReadable)
    (accepted : Invocation.ofArguments arguments = .ok invocation)
    (request : invocation.request = .generate asked) {final : Session} {ending : Ending}
    (ended : invoke surroundings time session arguments = (final, ending)) :
    (ending.status? = some 0 →
      ∃ journal result generated merged,
        HasRun surroundings time session invocation journal (.ok result) ∧ result.success ∧
        final.output = session.output ++ textOfLines
          (generated.map ("Markdown generated at " ++ ·) ++
            merged.map ("Merged Markdown written to " ++ ·)) ∧
        List.Forall₂ (NamesFile final.volume surroundings.directory) result.generated generated ∧
        List.Forall₂ (NamesFile final.volume surroundings.directory) result.merged.toList merged ∧
        ∀ path, result.merged = some path ↔
          result.settings.mergesFiles ∧ result.settings.output = some path) ∧
    (∀ journal result, HasRun surroundings time session invocation journal (.ok result) →
      result.success = false → ending = .exited 1 ∧ final.output = session.output) ∧
    (ending.status? ≠ some 0 → final.output = session.output) := by
  have concluded {journal : Journal} {outcome : Except Failure RunResult}
      (has : HasRun surroundings time session invocation journal outcome) :
      final.volume = journal.volume ∧
        Concludes surroundings.directory session.output outcome (final, ending) := by
    have concludes := concludes_of_hasRun accepted has
    rwa [ended] at concludes
  have runs := @hasRun_or_silent surroundings session time asked arguments invocation accepted request
  rw [ended] at runs
  refine ⟨fun returned => ?_, fun journal result has failure => ?_, fun notReturned => ?_⟩
  · rcases runs with ⟨journal, outcome, has⟩ | ⟨-, elsewise⟩
    · obtain ⟨kept, concludes⟩ := concluded has
      cases concludes with
      | failed failure silent => cases returned
      | escaped silent => cases returned
      | @succeeded result _ success printed =>
        refine ⟨journal, result, _, _, has, success, ?_,
          kept ▸ forall₂_namesFile sound named has success (List.subset_append_left _ _),
          kept ▸ forall₂_namesFile sound named has success (List.subset_append_right _ _),
          merged_iff_of_hasRun has success⟩
        rw [printed, reportText, List.map_map, List.map_map]
        rfl
    · exact absurd returned elsewise
  · obtain ⟨-, concludes⟩ := concluded has
    cases concludes with
    | succeeded success printed =>
      rw [failure] at success
      cases success
    | failed failure silent => exact ⟨rfl, silent⟩
  · rcases runs with ⟨journal, outcome, has⟩ | ⟨silent, -⟩
    · obtain ⟨-, concludes⟩ := concluded has
      cases concludes with
      | succeeded success printed => exact absurd rfl notReturned
      | failed failure silent => exact silent
      | escaped silent => exact silent
    · exact silent

/-! ### A working directory -/

/-- A session in a directory below the top, with a document there. -/
def workSession : Session where
  volume := ⟨[(["work"], .directory), (["work", "api.xml"], .file (Text.encodeUtf8 "<doc/>"))]⟩

/-- The document is generated into the working directory by a way round, and merged into a file beside
it. -/
def workArguments : List String :=
  ["generate", "api.xml", "-d", "../work/docs", "--merge", "-o", "../all.md"]

def workRequest : GenerateArguments :=
  { inputs := ["api.xml"], documentation := some "../work/docs", merges := true
    output := some "../all.md" }

/-- How the arguments are read, and how the invocation ends. -/
structure WorkRuns : Prop where
  accepted : (Invocation.ofArguments workArguments).toOption =
    some { request := .generate workRequest }
  returns : (invoke ⟨["work"], []⟩ "now" workSession workArguments).2 = .returned
  printed : (invoke ⟨["work"], []⟩ "now" workSession workArguments).1.output =
    "Markdown generated at docs/api.md\nMerged Markdown written to ../all.md\n"

theorem workRuns : WorkRuns := by
  constructor
  · decide +kernel
  all_goals
    simp only [invoke, Invocation.carryOut, generate, runWith, Generation.run,
      Generation.runChecked, Generation.produce, Generation.mergeGenerated, Collection.merge,
      Collection.findExisting, Collection.discover, Collection.markdownBelow,
      Collection.mergeSort_eq_insertionSort]
    decide +kernel

/-- The way round is not told, and the way out is. -/
theorem way_round_is_not_told :
    ∃ (final : Session) (result : RunResult) (generated merged : List String),
      invoke ⟨["work"], []⟩ "now" workSession workArguments = (final, .returned) ∧
      result.success ∧
      textOfLines (generated.map ("Markdown generated at " ++ ·) ++
        merged.map ("Merged Markdown written to " ++ ·)) =
          "Markdown generated at docs/api.md\nMerged Markdown written to ../all.md\n" ∧
      List.Forall₂ (NamesFile final.volume ["work"]) result.generated generated ∧
      List.Forall₂ (NamesFile final.volume ["work"]) result.merged.toList merged := by
  have sound : workSession.volume.WellFormedAt ["work"] :=
    ⟨⟨by decide, by decide, by decide⟩, rfl⟩
  have named : (Path.ofLocation ["work"]).IsReadable :=
    List.forall_mem_singleton.mpr ⟨by decide, by decide, by decide⟩
  have accepted := toOption_eq_some_iff.mp workRuns.accepted
  have returns := workRuns.returns
  have printed := workRuns.printed
  cases ended : invoke ⟨["work"], []⟩ "now" workSession workArguments with
  | mk final ending =>
    rw [ended] at returns printed
    obtain rfl : ending = .returned := returns
    obtain ⟨returned, -⟩ := report_names_the_files sound named accepted rfl ended
    obtain ⟨-, result, generated, merged, -, success, output, first, second, -⟩ := returned rfl
    exact ⟨final, result, generated, merged, rfl, success, output.symm.trans printed, first, second⟩

end CommandLine

end MemberDocs
