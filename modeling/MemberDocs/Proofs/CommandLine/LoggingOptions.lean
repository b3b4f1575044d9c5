import MemberDocs.Proofs.CommandLine.Scopes

/-! # Options of the log before and after the command

Arguments that are accepted are a run of options of the log, the name of a command, and the arguments of
the command (`exists_parts`), and what they say is put together from both sides. So an option of the log
can stand on either side (`logging_options_stand_on_either_side`), with two reservations: the value of
`--log-file` in an argument of its own can look like an option of the command, and the last log file on a
side counts.
-/

namespace MemberDocs.CommandLine

open Grammar (IsLogging Spells)

variable {command : Command} {before words rest : List String}
  {outer given : List (OptionKey × Option String)} {inner : Given OptionKey} {invocation : Invocation}

/-! ## What options say -/

/-- The last value that is given for an option. -/
def lastValue (options : List (OptionKey × Option String)) (key : OptionKey) : Option String :=
  ({ options } : Given OptionKey).value? key

/-- An option is among those that are given. -/
def isGiven (options : List (OptionKey × Option String)) (key : OptionKey) : Bool :=
  ({ options } : Given OptionKey).has key

theorem has_eq_isGiven (given : Given OptionKey) (key : OptionKey) :
    given.has key = isGiven given.options key := rfl

theorem value?_eq_lastValue (given : Given OptionKey) (key : OptionKey) :
    given.value? key = lastValue given.options key := rfl

theorem isGiven_append (first second : List (OptionKey × Option String)) (key : OptionKey) :
    isGiven (first ++ second) key = (isGiven first key || isGiven second key) :=
  List.any_append

theorem lastValue_of_not_isGiven {options : List (OptionKey × Option String)} {key : OptionKey}
    (absent : isGiven options key = false) : lastValue options key = none := by
  unfold lastValue Given.value?
  rw [Given.lookup_of_not_has absent]
  rfl

theorem lastValue_append_of_not_isGiven {first second : List (OptionKey × Option String)}
    {key : OptionKey} (absent : isGiven first key = false) :
    lastValue (first ++ second) key = lastValue second key := by
  unfold lastValue Given.value?
  rw [List.reverse_append, List.lookup_append, @Given.lookup_of_not_has { options := first } _ absent,
    Option.or_none]

/-- Where an option always has a value, the last one counts. -/
theorem lastValue_append {first second : List (OptionKey × Option String)} {key : OptionKey}
    (valued : ∀ entry ∈ second, entry.1 = key → entry.2.isSome) :
    lastValue (first ++ second) key = (lastValue second key).or (lastValue first key) := by
  unfold lastValue Given.value?
  rw [List.reverse_append, List.lookup_append]
  cases found : second.reverse.lookup key with
  | none => rfl
  | some value =>
    obtain ⟨_, _, names, -⟩ := List.lookup_eq_some_iff.mp found
    have among : (key, value) ∈ second := List.mem_reverse.mp (names ▸ by simp)
    obtain ⟨text, rfl⟩ := Option.isSome_iff_exists.mp (valued _ among rfl)
    rfl

/-! ## Both sides of the command -/

/-- Arguments that a command takes for its own and that leave nothing over. The program has classified
them before. -/
structure Command.Accepts (command : Command) (arguments : List String) (given : Given OptionKey) :
    Prop where
  classified : ∃ classified, Scope.program.grammar.classifyAll arguments = .ok classified
  reads : (Scope.command command).grammar.read arguments = .ok given
  used : given.extras = []

/-- What options before a command and the command's own arguments say together. -/
structure Invocation.SaidBy (invocation : Invocation) (outer : List (OptionKey × Option String))
    (command : Command) (inner : Given OptionKey) : Prop where
  verbose : invocation.verbose = (isGiven outer .verbose || isGiven inner.options .verbose)
  logFile : invocation.logFile = (lastValue inner.options .logFile).or (lastValue outer .logFile)
  request : invocation.request = command.request inner

theorem classifies_name (command : Command) :
    Scope.program.grammar.Classifies command.name .operand :=
  ⟨by cases command <;> decide, by cases command <;> rfl⟩

theorem read_name_eq_ok_iff {given : Given OptionKey} :
    Scope.program.grammar.read (command.name :: rest) = .ok given ↔
      (∃ classified, Scope.program.grammar.classifyAll rest = .ok classified) ∧
        given = { operands := some (command.name :: rest) } := by
  unfold Grammar.read
  rw [Grammar.classifyAll_cons (classifies_name command)]
  cases classifies : Scope.program.grammar.classifyAll rest with
  | error fault => simp [bind, Except.bind, Except.map, Except.mapError]
  | ok classified =>
    have texts := Grammar.map_fst_of_classifyAll classifies
    have uses : Given.use Scope.program.grammar {} ((command.name, .operand) :: classified) =
        .ok { operands := some (command.name :: classified.map (·.1)) } := by
      unfold Given.use
      rfl
    simp only [bind, Except.bind, Except.map, Except.mapError, uses, texts]
    simp [eq_comm]

theorem Invocation.saidBy_iff {outer : Given OptionKey} :
    invocation.SaidBy outer.options command inner ↔
      invocation = ⟨outer.has .verbose || inner.has .verbose,
        (inner.value? .logFile).or (outer.value? .logFile), command.request inner⟩ := by
  constructor
  · rintro ⟨verbose, logFile, request⟩
    obtain ⟨_, _, _⟩ := invocation
    exact Invocation.mk.injEq .. ▸ ⟨verbose, logFile, request⟩
  · rintro rfl
    exact ⟨rfl, rfl, rfl⟩

theorem ofGiven_eq_ok_iff {outer : Given OptionKey} :
    Invocation.ofGiven command outer inner = .ok invocation ↔
      outer.extras = [] ∧ inner.extras = [] ∧ invocation.SaidBy outer.options command inner := by
  rw [Invocation.saidBy_iff]
  unfold Invocation.ofGiven
  split
  next none =>
    obtain ⟨outside, inside⟩ := List.append_eq_nil_iff.mp none
    simp [outside, inside, eq_comm]
  next some =>
    refine iff_of_false (fun same => by cases same) ?_
    rintro ⟨outside, inside, -⟩
    exact some (by rw [outside, inside, List.append_nil])

theorem scope_read_eq_ok_iff {scope : Scope} {arguments : List String} {given : Given OptionKey} :
    scope.read arguments = .ok given ↔ scope.grammar.read arguments = .ok given :=
  mapError_eq_ok_iff

theorem ofName?_eq_some_iff {name : String} :
    Command.ofName? name = some command ↔ name = command.name := by
  refine ⟨fun known => by simpa [eq_comm] using List.find?_some known, ?_⟩
  rintro rfl
  cases command <;> decide

/-- What is accepted was read twice, by the program up to the name of a command, and by the command. -/
theorem exists_read_iff {arguments : List String} :
    Invocation.ofArguments arguments = .ok invocation ↔
      ∃ outer command rest inner, Scope.program.grammar.read arguments = .ok outer ∧
        outer.extras = [] ∧ outer.operands = some (command.name :: rest) ∧
        (Scope.command command).grammar.read rest = .ok inner ∧ inner.extras = [] ∧
        invocation.SaidBy outer.options command inner := by
  constructor
  · intro accepted
    unfold Invocation.ofArguments at accepted
    obtain ⟨outer, reads, accepted⟩ := bind_eq_ok_iff.mp accepted
    cases operands : outer.operands with
    | none =>
      rw [operands] at accepted
      cases accepted
    | some operands' =>
      simp only [operands, Option.getD_some] at accepted
      split at accepted
      next => cases accepted
      next name rest =>
        split at accepted
        next => cases accepted
        next command known =>
          obtain rfl := ofName?_eq_some_iff.mp known
          obtain ⟨inner, readsInner, accepted⟩ := bind_eq_ok_iff.mp accepted
          obtain ⟨unused, unusedInner, said⟩ := ofGiven_eq_ok_iff.mp accepted
          exact ⟨outer, command, rest, inner, scope_read_eq_ok_iff.mp reads, unused, operands,
            scope_read_eq_ok_iff.mp readsInner, unusedInner, said⟩
  · rintro ⟨outer, command, rest, inner, reads, unused, operands, readsInner, unusedInner, said⟩
    refine bind_eq_ok_iff.mpr ⟨outer, scope_read_eq_ok_iff.mpr reads, ?_⟩
    simp only [operands, Option.getD_some, ofName?_eq_some_iff.mpr (Eq.refl command.name)]
    exact bind_eq_ok_iff.mpr ⟨inner, scope_read_eq_ok_iff.mpr readsInner,
      ofGiven_eq_ok_iff.mpr ⟨unused, unusedInner, said⟩⟩

/-- Arguments with options before the name of a command are accepted if the command accepts its own. -/
theorem ofArguments_eq_ok_iff (spelled : Scope.program.grammar.Spells before outer) :
    Invocation.ofArguments (before ++ command.name :: rest) = .ok invocation ↔
      ∃ inner, command.Accepts rest inner ∧ invocation.SaidBy outer command inner := by
  have options : (Given.after outer { operands := some (command.name :: rest) }).options = outer :=
    List.append_nil outer
  rw [exists_read_iff]
  constructor
  · rintro ⟨given, other, later, inner, reads, -, operands, readsInner, used, said⟩
    rw [Grammar.read_append spelled] at reads
    obtain ⟨_, readsName, rfl⟩ := map_eq_ok_iff.mp reads
    obtain ⟨classified, rfl⟩ := read_name_eq_ok_iff.mp readsName
    obtain ⟨named, rfl⟩ := List.cons.inj (Option.some.inj operands)
    obtain rfl : command = other := Option.some.inj
      ((ofName?_eq_some_iff.mpr rfl).symm.trans (ofName?_eq_some_iff.mpr named))
    rw [options] at said
    exact ⟨inner, ⟨classified, readsInner, used⟩, said⟩
  · rintro ⟨inner, ⟨classified, reads, used⟩, said⟩
    refine ⟨Given.after outer { operands := some (command.name :: rest) }, command, rest, inner, ?_,
      rfl, rfl, reads, used, by rwa [options]⟩
    rw [Grammar.read_append spelled, read_name_eq_ok_iff.mpr ⟨classified, rfl⟩]
    rfl

/-- Accepted arguments are options of the log, the name of a command, and what the command accepts. -/
theorem exists_parts {arguments : List String}
    (accepted : Invocation.ofArguments arguments = .ok invocation) :
    ∃ before outer, ∃ command : Command, ∃ rest, arguments = before ++ command.name :: rest ∧
      Scope.program.grammar.Spells before outer := by
  obtain ⟨given, command, rest, inner, reads, unused, operands, -⟩ := exists_read_iff.mp accepted
  obtain ⟨classified, classifies, uses⟩ := Grammar.exists_of_read reads
  obtain ⟨before, outer, later, rfl, spelled, -, last⟩ :=
    Grammar.exists_spells_of_use rfl uses unused _ classifies
  rw [operands] at last
  split at last
  next => cases last
  next => exact ⟨before, outer, command, rest, by rw [Option.some.inj last], spelled⟩

/-! ## Moving options -/

theorem exists_classifyAll_append {κ : Type} {grammar : Grammar κ} {words : List String}
    {given : List (κ × Option String)} (spelled : grammar.Spells words given) (rest : List String) :
    ∃ entries, grammar.classifyAll (words ++ rest) =
      (grammar.classifyAll rest).map (entries ++ ·) := by
  have joined (first second : List (Classified κ))
      (classified : Except ArgumentFault (List (Classified κ))) :
      (classified.map (second ++ ·)).map (first ++ ·) = classified.map ((first ++ second) ++ ·) := by
    cases classified with
    | error fault => rfl
    | ok others => simp [Except.map]
  induction spelled with
  | nil => exact ⟨[], by cases classifies : grammar.classifyAll rest <;> simp [classifies, Except.map]⟩
  | @alone argument cluster words given stands complete others ih =>
    obtain ⟨entries, later⟩ := ih
    obtain ⟨kind, classified, -⟩ := stands.clustered
    refine ⟨[(argument, kind)] ++ entries, ?_⟩
    rw [List.cons_append, Grammar.classifyAll_cons ⟨stands.notDashes, classified⟩, later, ← joined]
    rfl
  | @withValue argument cluster spec value words given stands wants operand others ih =>
    obtain ⟨entries, later⟩ := ih
    obtain ⟨kind, classified, -⟩ := stands.clustered
    refine ⟨[(argument, kind)] ++ ([(value, .operand)] ++ entries), ?_⟩
    rw [List.cons_append, List.cons_append,
      Grammar.classifyAll_cons ⟨stands.notDashes, classified⟩, Grammar.classifyAll_cons operand, later,
      ← joined, ← joined]
    rfl

/-- Options of the log that a command reads come first in what it accepts. -/
theorem accepts_append_iff (outside : Scope.program.grammar.Spells words given)
    (inside : (Scope.command command).grammar.Spells words given) {whole : Given OptionKey} :
    command.Accepts (words ++ rest) whole ↔
      ∃ inner, command.Accepts rest inner ∧ whole = inner.after given := by
  obtain ⟨entries, classifies⟩ := exists_classifyAll_append outside rest
  constructor
  · rintro ⟨⟨classified, all⟩, reads, used⟩
    rw [classifies] at all
    obtain ⟨later, all, -⟩ := map_eq_ok_iff.mp all
    rw [Grammar.read_append inside] at reads
    obtain ⟨inner, readsRest, rfl⟩ := map_eq_ok_iff.mp reads
    exact ⟨inner, ⟨⟨later, all⟩, readsRest, used⟩, rfl⟩
  · rintro ⟨inner, ⟨⟨classified, all⟩, reads, used⟩, rfl⟩
    refine ⟨⟨entries ++ classified, ?_⟩, ?_, used⟩
    · rw [classifies, all]
      rfl
    · rw [Grammar.read_append inside, reads]
      rfl

/-- The value of every log file is there. -/
theorem valued_of_offers {scope : Scope} {options : List (OptionKey × Option String)}
    (offers : ∀ entry ∈ options, scope.grammar.Offers entry) :
    ∀ entry ∈ options, entry.1 = .logFile → entry.2.isSome := by
  have takesValue : ∀ spec ∈ scope.grammar.options, spec.key = .logFile → spec.kind = .value := by
    match scope with
    | .program => simp [Scope.grammar, commonOptions]
    | .command .convert => simp [Scope.grammar, commonOptions, Command.options]
    | .command .generate => simp [Scope.grammar, commonOptions, Command.options]
  intro entry among named
  obtain ⟨spec, listed, key, -, valued⟩ := offers entry among
  exact valued (takesValue spec listed (key.symm.trans named))

theorem isGiven_of_isLogging {options : List (OptionKey × Option String)} {key : OptionKey}
    (logging : ∀ entry ∈ options, IsLogging entry.1) (other : ¬ IsLogging key) :
    isGiven options key = false :=
  List.any_eq_false.mpr fun entry among same =>
    other (of_decide_eq_true same ▸ logging entry among)

/-- Options of the log make no other request. -/
theorem request_after (logging : ∀ entry ∈ given, IsLogging entry.1) :
    command.request (inner.after given) = command.request inner := by
  have has {key : OptionKey} (other : ¬ IsLogging key) :
      (inner.after given).has key = inner.has key := by
    rw [has_eq_isGiven, Given.after, isGiven_append, isGiven_of_isLogging logging other]
    rfl
  have value {key : OptionKey} (other : ¬ IsLogging key) :
      (inner.after given).value? key = inner.value? key := by
    rw [value?_eq_lastValue, Given.after,
      lastValue_append_of_not_isGiven (isGiven_of_isLogging logging other)]
    rfl
  unfold IsLogging at has value
  cases command with
  | convert => simp only [Command.request, has, value, reduceCtorEq, or_self, not_false_eq_true]
  | generate =>
    simp only [Command.request, has, value, reduceCtorEq, or_self, not_false_eq_true,
      Given.operands_after]

/-- What options before the command say, they say also behind it, if no later log file stands before the
command. -/
theorem Invocation.saidBy_after_iff {earlier later : List (OptionKey × Option String)}
    (outside : Scope.program.grammar.Spells words given)
    (valuedLater : ∀ entry ∈ later, entry.1 = .logFile → entry.2.isSome)
    (valuedInner : ∀ entry ∈ inner.options, entry.1 = .logFile → entry.2.isSome)
    (apart : isGiven given .logFile = false ∨ isGiven later .logFile = false) :
    invocation.SaidBy (earlier ++ (given ++ later)) command inner ↔
      invocation.SaidBy (earlier ++ later) command (inner.after given) := by
  have valuedGiven := @valued_of_offers .program _ outside.offers
  have verbose : (isGiven (earlier ++ (given ++ later)) .verbose || isGiven inner.options .verbose) =
      (isGiven (earlier ++ later) .verbose || isGiven (given ++ inner.options) .verbose) := by
    simp only [isGiven_append]
    ac_rfl
  have logFile : (lastValue inner.options .logFile).or
        (lastValue (earlier ++ (given ++ later)) .logFile) =
      (lastValue (given ++ inner.options) .logFile).or (lastValue (earlier ++ later) .logFile) := by
    have valuedBoth := List.forall_mem_append.mpr ⟨valuedGiven, valuedLater⟩
    rw [lastValue_append valuedBoth, lastValue_append valuedLater, lastValue_append valuedInner,
      lastValue_append valuedLater]
    rcases apart with absent | absent <;>
      simp only [lastValue_of_not_isGiven absent, Option.or_none, Option.none_or, Option.or_assoc]
  have request : command.request (inner.after given) = command.request inner :=
    request_after outside.isLogging
  constructor
  · rintro ⟨saysVerbose, saysLogFile, asks⟩
    exact ⟨saysVerbose.trans verbose, saysLogFile.trans logFile, asks.trans request.symm⟩
  · rintro ⟨saysVerbose, saysLogFile, asks⟩
    exact ⟨saysVerbose.trans verbose.symm, saysLogFile.trans logFile.symm, asks.trans request⟩

/-! ## How the options are written -/

/-- How the options of the log are written in a scope. A log file in an argument of its own must be none of
the scope's options. -/
structure Scope.WritesLogging (scope : Scope) : Prop where
  /-- What is short for options of the program, or several of them in one, is so in the scope. -/
  alike : ∀ argument cluster, Scope.program.grammar.StandsFor argument cluster →
    scope.grammar.StandsFor argument cluster
  short : scope.grammar.Spells ["-v"] [(.verbose, none)]
  long : scope.grammar.Spells ["--verbose"] [(.verbose, none)]
  joined : ∀ file, scope.grammar.Spells [logFileArgument file] [(.logFile, some file)]
  separate : ∀ file, scope.grammar.Spells ["--log-file", file] [(.logFile, some file)] ↔
    scope.grammar.Classifies file .operand
  plain : ∀ file, file.toList.head? ≠ some '-' → scope.grammar.Classifies file .operand

theorem Grammar.StandsFor.unique {κ : Type} {grammar : Grammar κ} {argument : String}
    {first second : Grammar.Cluster κ} (stands : grammar.StandsFor argument first)
    (again : grammar.StandsFor argument second) : first = second := by
  obtain ⟨kind, classified, clustered⟩ := stands.clustered
  obtain ⟨other, classified', clustered'⟩ := again.clustered
  obtain rfl := Except.ok.inj (classified.symm.trans classified')
  exact Except.ok.inj (Option.some.inj (clustered.symm.trans clustered'))

/-- The option for more records. -/
def verboseOption : OptionSpec OptionKey := ⟨["-v", "--verbose"], .flag, .verbose⟩

theorem writesLogging (scope : Scope) : scope.WritesLogging := by
  have verbose {name : String} (notDashes : name ≠ "--")
      (classified : scope.grammar.classify name = .ok (.option verboseOption none)) :
      scope.grammar.Spells [name] [(.verbose, none)] := by
    have stands : scope.grammar.StandsFor name { given := [(verboseOption, none)] } :=
      ⟨notDashes, ⟨_, classified, rfl⟩, rfl, by simp [verboseOption]⟩
    exact .alone stands rfl .nil
  have classified : scope.grammar.classify "--log-file" = .ok (.option logFileOption none) := by
    match scope with
    | .program | .command .convert | .command .generate => rfl
  have stands : scope.grammar.StandsFor "--log-file" { given := [], wanting := some logFileOption } :=
    ⟨by decide, ⟨_, classified, rfl⟩, rfl, List.forall_mem_nil _⟩
  refine ⟨fun argument cluster outer => ?_, verbose (by decide) ?_, verbose (by decide) ?_,
    spells_logFileArgument scope,
    fun file => ⟨fun spelled => ?_, fun operand => .withValue stands rfl operand .nil⟩,
    fun file plain => ⟨?_, Grammar.classify_of_not_hyphened ?_⟩⟩
  · match scope with
    | .program => exact outer
    | .command _ => exact outer.of_program
  · match scope with
    | .program | .command .convert | .command .generate => rfl
  · match scope with
    | .program | .command .convert | .command .generate => rfl
  · generalize [(OptionKey.logFile, some file)] = given at spelled
    cases spelled with
    | alone other complete =>
      rw [other.unique stands] at complete
      cases complete
    | withValue _ _ operand => exact operand
  · rintro rfl
    exact plain rfl
  · rintro ⟨second, rest, characters⟩
    exact plain (by rw [characters]; rfl)

/-! ## The two sides -/

theorem Grammar.Spells.append {κ : Type} {grammar : Grammar κ} {first second : List String}
    {earlier later : List (κ × Option String)} (spelled : grammar.Spells first earlier)
    (others : grammar.Spells second later) :
    grammar.Spells (first ++ second) (earlier ++ later) := by
  induction spelled with
  | nil => exact others
  | alone stands complete _ ih =>
    rw [List.append_assoc]
    exact .alone stands complete ih
  | withValue stands wants operand _ ih =>
    rw [List.append_assoc]
    exact .withValue stands wants operand ih

theorem Grammar.Spells.unique {κ : Type} {grammar : Grammar κ} {words : List String}
    {first second : List (κ × Option String)} (spelled : grammar.Spells words first)
    (again : grammar.Spells words second) : first = second := by
  have same := (Grammar.read_append spelled []).symm.trans (Grammar.read_append again [])
  have options := congrArg Given.options (Except.ok.inj same)
  rwa [Given.after, Given.after, List.append_nil, List.append_nil] at options

theorem Command.Accepts.valued (accepts : command.Accepts rest inner) :
    ∀ entry ∈ inner.options, entry.1 = .logFile → entry.2.isSome :=
  @valued_of_offers (.command command) _ (Grammar.offers_of_read accepts.reads)

variable {first second arguments : List String} {earlier later : List (OptionKey × Option String)}

/-- Options of the log are accepted directly behind the name of the command if they are read there as
they are before it. -/
theorem ofArguments_moved_eq_ok_iff (spelledFirst : Scope.program.grammar.Spells first earlier)
    (outside : Scope.program.grammar.Spells words given)
    (spelledSecond : Scope.program.grammar.Spells second later) :
    Invocation.ofArguments (first ++ second ++ command.name :: (words ++ rest)) = .ok invocation ↔
      (Scope.command command).grammar.Spells words given ∧
        ∃ inner, command.Accepts rest inner ∧
          invocation.SaidBy (earlier ++ later) command (inner.after given) := by
  rw [ofArguments_eq_ok_iff (spelledFirst.append spelledSecond)]
  constructor
  · rintro ⟨whole, accepts, said⟩
    have inside := outside.of_program accepts.reads
    obtain ⟨inner, acceptsRest, rfl⟩ := (accepts_append_iff outside inside).mp accepts
    exact ⟨inside, inner, acceptsRest, said⟩
  · rintro ⟨inside, inner, accepts, said⟩
    exact ⟨_, (accepts_append_iff outside inside).mpr ⟨inner, accepts, rfl⟩, said⟩

/-- **Options of the log stand on either side of the command.** Accepted arguments are options of the log,
the name of a command, and what the command accepts. The invocation is verbose if either side says so, and
its log file is the last one behind the name, or else the last one before it.

Whatever options are moved from before the command to directly behind its name, the arguments are accepted
exactly if the command reads these options as the program does, and they say the same unless a log file is
moved over another one that stands before the command. A command reads all ways to write the options so,
but a value in an argument of its own has to be no option of the command. The other way, options that are
moved to directly before the name always say the same. -/
theorem logging_options_stand_on_either_side
    (accepted : Invocation.ofArguments arguments = .ok invocation) :
    (∀ scope : Scope, scope.WritesLogging) ∧
      ∃ before outer command rest inner, arguments = before ++ command.name :: rest ∧
        Scope.program.grammar.Spells before outer ∧ command.Accepts rest inner ∧
        invocation.SaidBy outer command inner ∧
        (∀ first words second earlier given later, before = first ++ (words ++ second) →
          Scope.program.grammar.Spells first earlier →
          Scope.program.grammar.Spells words given →
          Scope.program.grammar.Spells second later →
          ((∃ moved, Invocation.ofArguments
              (first ++ second ++ command.name :: (words ++ rest)) = .ok moved) ↔
            (Scope.command command).grammar.Spells words given) ∧
          ((Scope.command command).grammar.Spells words given →
            isGiven given .logFile = false ∨ isGiven later .logFile = false →
            Invocation.ofArguments (first ++ second ++ command.name :: (words ++ rest)) =
              .ok invocation)) ∧
        ∀ words given later, rest = words ++ later →
          (Scope.command command).grammar.Spells words given →
          (∀ entry ∈ given, IsLogging entry.1) →
          Invocation.ofArguments (before ++ words ++ command.name :: later) = .ok invocation := by
  obtain ⟨before, outer, command, rest, rfl, spelled⟩ := exists_parts accepted
  obtain ⟨inner, accepts, said⟩ := (ofArguments_eq_ok_iff spelled).mp accepted
  refine ⟨writesLogging, before, outer, command, rest, inner, rfl, spelled, accepts, said, ?_, ?_⟩
  · rintro first words second earlier given later rfl spelledFirst outside spelledSecond
    obtain rfl := spelled.unique (spelledFirst.append (outside.append spelledSecond))
    refine ⟨⟨?_, fun inside => ?_⟩, fun inside apart => ?_⟩
    · rintro ⟨moved, accepted⟩
      exact ((ofArguments_moved_eq_ok_iff spelledFirst outside spelledSecond).mp accepted).1
    · exact ⟨⟨_, _, _⟩, (ofArguments_moved_eq_ok_iff spelledFirst outside spelledSecond).mpr
        ⟨inside, inner, accepts, rfl, rfl, rfl⟩⟩
    · refine (ofArguments_moved_eq_ok_iff spelledFirst outside spelledSecond).mpr
        ⟨inside, inner, accepts, ?_⟩
      have valuedLater := @valued_of_offers .program _ spelledSecond.offers
      exact (Invocation.saidBy_after_iff outside valuedLater accepts.valued apart).mp said
  · rintro words given later rfl inside logging
    have outside := inside.to_program logging
    obtain ⟨inner, acceptsRest, rfl⟩ := (accepts_append_iff outside inside).mp accepts
    rw [ofArguments_eq_ok_iff (spelled.append outside)]
    refine ⟨inner, acceptsRest, ?_⟩
    have both := @Invocation.saidBy_after_iff command words given inner invocation outer [] outside
      (List.forall_mem_nil _) acceptsRest.valued (.inr rfl)
    rw [List.append_nil, List.append_nil] at both
    exact both.mpr said

/-- A conversion from the console to the console, with records of every level. -/
def loudConversion : Invocation where
  verbose := true
  request := .convert { fromConsole := true, toConsole := true }

theorem verbose_conversion_is_written_both_ways :
    Invocation.ofArguments ["-v", "convert", "--cin", "--cout"] = .ok loudConversion ∧
      Invocation.ofArguments ["convert", "-v", "--cin", "--cout"] = .ok loudConversion := by
  have accepted : Invocation.ofArguments ["-v", "convert", "--cin", "--cout"] =
      .ok loudConversion := toOption_eq_some_iff.mp (by decide +kernel)
  obtain ⟨writes, before, outer, command, rest, inner, split, spelled, -, -, moves, -⟩ :=
    logging_options_stand_on_either_side accepted
  have cut : before = ["-v"] ∧ command = .convert ∧ rest = ["--cin", "--cout"] := by
    match before with
    | [] => cases command <;> simp [Command.name] at split
    | [_] => cases command <;> simp_all [Command.name]
    | [_, _] => cases command <;> simp [Command.name] at split
    | [_, _, _] => cases command <;> simp [Command.name] at split
    | _ :: _ :: _ :: _ :: _ => cases command <;> simp at split
  obtain ⟨rfl, rfl, rfl⟩ := cut
  exact ⟨accepted, (moves [] ["-v"] [] [] _ [] rfl .nil (writes .program).short .nil).2
    (writes (.command .convert)).short (.inr rfl)⟩

/-- A log file whose path begins as an option of the command cannot stand behind the name, and of two log
files before it the first one counts when it is moved. -/
theorem some_log_files_do_not_move :
    (Invocation.ofArguments ["--log-file", "-o x", "convert", "--cin", "--cout"]).toOption.map
        (·.logFile) = some (some "-o x") ∧
      (Invocation.ofArguments ["convert", "--log-file", "-o x", "--cin", "--cout"]).toOption = none ∧
      (Invocation.ofArguments ["--log-file", "a.log", "--log-file", "b.log", "convert", "--cin",
        "--cout"]).toOption.map (·.logFile) = some (some "b.log") ∧
      (Invocation.ofArguments ["--log-file", "b.log", "convert", "--log-file", "a.log", "--cin",
        "--cout"]).toOption.map (·.logFile) = some (some "a.log") := by
  decide +kernel

end MemberDocs.CommandLine
