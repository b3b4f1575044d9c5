import MemberDocs.CommandLine.Program
import MemberDocs.Proofs.FrontMatter.Search
import MemberDocs.Proofs.Generation.EffectiveSettings
import MemberDocs.Proofs.Generation.Sequence

/-! # Where settings come from

The settings of a run have three layers above their defaults: the configuration file, the arguments
and the front matter of the documentation path that the first two agree on. Each setting is taken
from the highest layer that has a say in it (`Layered`), independently of the others, and every
result of the run reports what is in effect (`settings_are_layered`).
-/

namespace MemberDocs.CommandLine

open Config (Surroundings)
open FrontMatter (AllowedTags Governs Options)
open Generation (Journal Settings applyFrontMatter startRecord)

/-- A path that an argument gives, in place of another one. An empty argument gives none. -/
def pathOver (argument : Option String) (path : Option Path) : Option Path :=
  match argument with
  | none | some "" => path
  | some text => some (Path.ofString text)

theorem or_givenPath? (argument : Option String) (path : Option Path) :
    (givenPath? argument).or path = pathOver argument path := by
  unfold pathOver
  split
  next => rfl
  next => rfl
  next text notEmpty =>
    have filled : text ≠ "" := notEmpty
    simp [givenPath?, filled]

/-- Settings whose layers are a configuration file, the arguments of a command, and the options of
front matter, if there is any. -/
structure Layered (given : Given OptionKey) (file : Settings) (front : Option Options)
    (settings : Settings) : Prop where
  inputs : settings.inputs =
    match given.operands.getD [] with
    | [] => file.inputs
    | texts => texts.map Path.ofString
  documentation : settings.documentation =
    pathOver (given.value? .documentation) file.documentation
  output : settings.output = pathOver (given.value? .output) file.output
  mergesFiles : settings.mergesFiles =
    match front with
    | some options => options.mergeXmlComments
    | none => given.has .merge || file.mergesFiles
  policy : settings.policy =
    match front.bind Options.allowedTags with
    | some .everyTag => .warn
    | some .knownTags => .error
    | none => if given.has .warn then .warn else file.policy

variable {given : Given OptionKey} {arguments : List String} {invocation : Invocation}
  {asked : GenerateArguments}

/-! ## The arguments -/

/-- Arguments that ask for several documents name the command, and its own arguments follow. -/
theorem exists_given_of_ofArguments (accepted : Invocation.ofArguments arguments = .ok invocation)
    (request : invocation.request = .generate asked) :
    ∃ outer rest given, Scope.program.read arguments = .ok outer ∧
      outer.operands = some ("generate" :: rest) ∧
      (Scope.command .generate).read rest = .ok given ∧
      Command.generate.request given = .generate asked := by
  unfold Invocation.ofArguments at accepted
  cases outside : Scope.program.read arguments with
  | error refusal =>
    rw [outside] at accepted
    cases accepted
  | ok outer =>
    simp only [outside, bind, Except.bind] at accepted
    split at accepted
    next => cases accepted
    next name rest named =>
      split at accepted
      next => cases accepted
      next command known =>
        split at accepted
        next => cases accepted
        next given inside =>
          have operands : outer.operands = some (name :: rest) := by
            cases taken : outer.operands with
            | none => simp [taken] at named
            | some texts =>
              rw [taken, Option.getD_some] at named
              rw [named]
          have made : command.request given = .generate asked := by
            unfold Invocation.ofGiven at accepted
            split at accepted
            next =>
              obtain rfl := Except.ok.inj accepted
              exact request
            next => cases accepted
          obtain rfl : command = .generate := by
            cases command with
            | convert => cases made
            | generate => rfl
          obtain rfl : name = "generate" := by
            simpa [Command.name, eq_comm] using List.find?_some known
          exact ⟨outer, rest, given, rfl, operands, inside, made⟩

/-- Without front matter, the arguments lie over the configuration file. -/
theorem layered_override {file : Settings} (made : Command.generate.request given = .generate asked) :
    Layered given file none (asked.override file) := by
  obtain rfl := Request.generate.inj made
  refine ⟨?_, or_givenPath? _ _, or_givenPath? _ _, rfl, rfl⟩
  simp only [GenerateArguments.override]
  cases given.operands.getD [] <;> rfl

/-- Front matter lies over both. -/
theorem Layered.over {file settings : Settings} (layered : Layered given file none settings)
    (options : Options) : Layered given file (some options) (settings.override options) where
  inputs := layered.inputs
  documentation := layered.documentation
  output := layered.output
  mergesFiles := rfl
  policy := by
    simp only [Settings.override, Option.bind_some]
    cases options.allowedTags with
    | none => exact layered.policy
    | some allowed => cases allowed <;> rfl

/-! ## The run -/

/-- The options that are applied are those of the front matter that counts. -/
theorem exists_governs_of_applyFrontMatter {journal after : Journal} {directory : Location}
    {documentation : Path} {settings effective : Settings}
    (applied : applyFrontMatter journal directory documentation settings =
      (after, .ok effective)) :
    ∃ front, Governs journal.volume directory documentation front ∧
      effective = (front.map Prod.snd).elim settings settings.override := by
  have outcome := Generation.snd_applyFrontMatter journal directory documentation settings
  rw [applied] at outcome
  unfold Generation.effectiveSettings Generation.frontMatterOptions at outcome
  cases search : FrontMatter.findBlock journal.volume directory documentation with
  | error fault =>
    rw [search] at outcome
    cases outcome
  | ok found =>
    cases found with
    | none =>
      rw [search] at outcome
      exact ⟨none, FrontMatter.governs_of_not_found search, Except.ok.inj outcome⟩
    | some entry =>
      obtain ⟨path, block⟩ := entry
      cases parsed : Options.ofText block.content with
      | error error =>
        simp only [search, parsed] at outcome
        cases outcome
      | ok read =>
        obtain ⟨options, unknown⟩ := read
        simp only [search, parsed] at outcome
        exact ⟨some (block, options), FrontMatter.governs_of_found search parsed,
          Except.ok.inj outcome⟩

variable {surroundings : Surroundings} {session : Session} {logging : Logging} {time : String}
  {opened : Volume} {settings effective : Settings} {documentation : Path} {prepared : Journal}

/-- Once front matter has been applied, every result is about the settings in effect, also if these
are refused. -/
theorem settings_of_run_of_applied {journal : Journal} {directory : Location}
    {result : Generation.RunResult} (checked : settings.inputProblem? = none)
    (documented : settings.documentation = some documentation)
    (applied : applyFrontMatter (journal.note (startRecord settings)) directory documentation
      settings = (prepared, .ok effective))
    (ran : (Generation.run journal directory settings).2 = .ok result) :
    result.settings = effective := by
  cases problem : effective.outputProblem? prepared.volume directory with
  | some problem =>
    rw [Generation.run_of_refused (.output checked documented applied problem)] at ran
    obtain rfl := Except.ok.inj ran
    rfl
  | none =>
    let stages : Generation.Accepted journal directory settings :=
      ⟨documentation, effective, prepared, checked, documented, applied, problem⟩
    exact stages.settings_of_run ran

/-- **Precedence.** When the arguments ask for several documents, the configuration file can be
read, and the run gets past its first checks and the front matter, the settings in effect are layered:
the arguments over the configuration file, and over both, for merging and the policy alone, the front
matter of the documentation path that these two say. Whether files are merged is up to front matter
wherever there is any, also if it does not name the choice. The invocation is the run with these
settings, and every result of it reports them. -/
theorem settings_are_layered
    (accepted : Invocation.ofArguments arguments = .ok invocation)
    (request : invocation.request = .generate asked)
    (opens : invocation.openLogging surroundings.directory time session.volume =
      .ok (logging, opened))
    (resolved : asked.settings surroundings opened = .ok settings)
    (checked : settings.inputProblem? = none)
    (documented : settings.documentation = some documentation)
    (applied : applyFrontMatter ((logging.journal opened).note (startRecord settings))
      surroundings.directory documentation settings = (prepared, .ok effective)) :
    ∃ outer rest given file front,
      Scope.program.read arguments = .ok outer ∧
      outer.operands = some ("generate" :: rest) ∧
      (Scope.command .generate).read rest = .ok given ∧
      Config.load surroundings opened (Path.ofString ((given.value? .config).getD ".")) =
        .ok file ∧
      Layered given file none settings ∧
      effective.documentation = some documentation ∧
      Governs ((logging.journal opened).note (startRecord settings)).volume
        surroundings.directory documentation front ∧
      Layered given file (front.map Prod.snd) effective ∧
      (∀ block options, front = some (block, options) →
        ¬ block.Names FrontMatter.mergeKey → effective.mergesFiles = false) ∧
      invoke surroundings time session arguments =
        runWith { session with volume := opened } surroundings.directory logging settings ∧
      ∀ result, (Generation.run (logging.journal opened) surroundings.directory settings).2 =
        .ok result → result.settings = effective := by
  obtain ⟨outer, rest, given, outside, operands, inside, made⟩ :=
    exists_given_of_ofArguments accepted request
  have config : asked.config = (given.value? .config).getD "." := by
    rw [← Request.generate.inj made]
  obtain ⟨file, loaded, overridden⟩ : ∃ file,
      Config.load surroundings opened (Path.ofString asked.config) = .ok file ∧
        asked.override file = settings := by
    unfold GenerateArguments.settings at resolved
    cases loaded : Config.load surroundings opened (Path.ofString asked.config) with
    | error error =>
      rw [loaded] at resolved
      cases resolved
    | ok file =>
      rw [loaded] at resolved
      exact ⟨file, rfl, Except.ok.inj resolved⟩
  have below : Layered given file none settings := overridden ▸ layered_override made
  obtain ⟨front, governs, effect⟩ := exists_governs_of_applyFrontMatter applied
  have layered : Layered given file (front.map Prod.snd) effective := by
    rw [effect]
    cases front with
    | none => exact below
    | some entry => exact below.over entry.2
  have unmerged : ∀ block options, front = some (block, options) →
      ¬ block.Names FrontMatter.mergeKey → effective.mergesFiles = false := by
    rintro block options rfl unnamed
    cases governs with
    | present there found bare read filled parsed =>
      rw [layered.mergesFiles]
      exact FrontMatter.mergeXmlComments_of_not_names parsed unnamed
  have invoked : invoke surroundings time session arguments =
      runWith { session with volume := opened } surroundings.directory logging settings := by
    simp only [invoke, accepted, opens, Invocation.carryOut, request, generate, resolved]
  refine ⟨outer, rest, given, file, front, outside, operands, inside, config ▸ loaded, below,
    ?_, governs, layered, unmerged, invoked, ?_⟩
  · rw [(Generation.paths_of_applyFrontMatter applied).2.1, documented]
  · intro result ran
    exact settings_of_run_of_applied checked documented applied ran

/-! ### A project with all layers -/

/-- The configuration file merges and allows what the front matter of `docs` forbids, which does not
name merging. -/
def layeredVolume : Volume :=
  ⟨[([".xmldoc2md.yml"], .file (Text.encodeUtf8
      ("documentation_path: docs\noutput_file: all.md\ninputs: a.xml\nmerge_files: true\n" ++
        "warn_on_unexpected_tag: yes\n"))),
    (["docs"], .directory),
    (["docs", "a.md"], .file (Text.encodeUtf8 "---\nAllowedCustomTags: None\n---\n"))]⟩

def layeredArguments : List String :=
  ["generate", "--merge", "-o", "", "--warn-on-unexpected-tag", "b.xml"]

def layeredRequest : GenerateArguments :=
  { inputs := ["b.xml"], merges := true, output := some "", warns := true }

/-- What the configuration file and the arguments make. -/
def layeredSettings : Settings where
  inputs := [⟨.relative, ["b.xml"]⟩]
  documentation := some ⟨.top, ["docs"]⟩
  mergesFiles := true
  output := some ⟨.top, ["all.md"]⟩
  policy := .warn

/-- What front matter makes of it. -/
def layeredEffect : Settings :=
  { layeredSettings with mergesFiles := false, policy := .error }

/-- In it, the input is that of the arguments, the output is that of the configuration file, and
front matter settles the merge, which it does not name, and the policy. -/
theorem layered_project_has_layered_settings :
    layeredEffect.mergesFiles = false ∧ layeredEffect.policy = .error ∧
      ∃ given file front, Layered given file none layeredSettings ∧
        Layered given file (front.map Prod.snd) layeredEffect ∧
        Governs (({ volume := layeredVolume } : Journal).note (startRecord layeredSettings)).volume
          [] ⟨.top, ["docs"]⟩ front := by
  have accepted : Invocation.ofArguments layeredArguments =
      .ok { request := .generate layeredRequest } := toOption_eq_some_iff.mp (by decide +kernel)
  have resolved : layeredRequest.settings ⟨[], []⟩ layeredVolume = .ok layeredSettings :=
    toOption_eq_some_iff.mp (by decide +kernel)
  have applied : (applyFrontMatter
      (({ volume := layeredVolume } : Journal).note (startRecord layeredSettings)) []
      ⟨.top, ["docs"]⟩ layeredSettings).2 = .ok layeredEffect := by
    rw [Generation.snd_applyFrontMatter]
    exact toOption_eq_some_iff.mp (by decide +kernel)
  obtain ⟨_, _, given, file, front, -, -, -, -, below, -, governs, layered, -⟩ :=
    @settings_are_layered _ _ _ ⟨[], []⟩ { volume := layeredVolume } {} "" layeredVolume _
      layeredEffect _ _ accepted rfl rfl resolved (by decide +kernel) rfl (Prod.ext rfl applied)
  exact ⟨rfl, rfl, given, file, front, below, layered, governs⟩

end MemberDocs.CommandLine
