import MemberDocs.CommandLine.Arguments
import MemberDocs.Proofs.Result

/-! # Options before other arguments

Options that stand before all other arguments are read first, and change nothing that the rest means:
they come first in what is given (`Given.use_after`). So a run of arguments that spells options
(`Grammar.Spells`) can be read off the front (`Grammar.read_append`). An option of the log file that is
put before all other arguments asks for a log file, and does nothing else
(`ofArguments_logFileArgument`).
-/

namespace MemberDocs.CommandLine

namespace Given

variable {κ : Type}

/-- What is given, after some options. -/
def after (options : List (κ × Option String)) (given : Given κ) : Given κ :=
  { given with options := options ++ given.options }

variable (options : List (κ × Option String)) (given : Given κ)

@[simp] theorem operands_after : (given.after options).operands = given.operands := rfl

@[simp] theorem isOpen_after : (given.after options).isOpen = given.isOpen := rfl

@[simp] theorem extras_after : (given.after options).extras = given.extras := rfl

theorem take_after (taken : List (OptionSpec κ × Option String)) :
    (given.after options).take taken = (given.take taken).map (after options) := by
  unfold take
  split
  next => rfl
  next => simp [after, Except.map]

theorem takeOperands_after (operands : List String) (argument : String) :
    (given.after options).takeOperands operands argument =
      (given.takeOperands operands argument).after options := by
  unfold takeOperands
  rw [operands_after, isOpen_after]
  cases given.operands with
  | none => rfl
  | some taken => cases given.isOpen <;> rfl

variable {options given} in
theorem bind_take_after (next : Given κ → Except Stop (Given κ))
    (later : ∀ given, next (given.after options) = (next given).map (after options))
    (taken : List (OptionSpec κ × Option String)) :
    ((given.after options).take taken).bind next = ((given.take taken).bind next).map (after options) := by
  rw [take_after]
  cases given.take taken with
  | error stop => rfl
  | ok given => exact later given

/-- Options that come first come first in what is given. -/
theorem use_after (grammar : Grammar κ) (arguments : List (Classified κ)) :
    use grammar (given.after options) arguments = (use grammar given arguments).map (after options) := by
  have leftover (leftover : Option String) (given : Given κ) :
      (leftover.map (given.after options).leave).getD (given.after options) =
        ((leftover.map given.leave).getD given).after options := by
    cases leftover <;> rfl
  fun_induction use grammar given arguments with
  | case1 given => rfl
  | case2 given argument kind rest fault unclustered =>
    conv => lhs; unfold use
    simp only [unclustered]
    rfl
  | case3 given argument kind rest cluster clustered kept alone ih =>
    conv => lhs; unfold use
    simp only [clustered, alone, leftover]
    exact bind_take_after (use grammar · rest) ih _
  | case4 given argument kind cluster clustered kept wanting wants value rest ih =>
    conv => lhs; unfold use
    simp only [clustered, wants, leftover]
    exact bind_take_after (use grammar · rest) ih _
  | case5 given argument kind rest cluster clustered wanting wants missing =>
    conv => lhs; unfold use
    simp only [clustered, wants]
    rfl
  | case6 given argument rest unclustered ih =>
    conv => lhs; unfold use
    simp only [unclustered]
    exact ih
  | case7 given argument kind rest unclustered operands known ih =>
    conv => lhs; unfold use
    simp only [unclustered, operands]
    exact ih
  | case8 given argument rest operands unclustered ih =>
    conv => lhs; unfold use
    simp only [unclustered, operands, takeOperands_after]
    exact ih
  | case9 given argument kind rest unclustered operands known notDashes ih =>
    conv => lhs; unfold use
    simp only [unclustered, operands, takeOperands_after]
    exact ih
  | case10 given argument operands unclustered =>
    conv => lhs; unfold use
    simp only [unclustered, operands]
    rfl
  | case11 given argument kind rest unclustered operands known more =>
    conv => lhs; unfold use
    simp only [unclustered, operands]
    rfl

end Given

/-! ## Runs of options -/

/-- Options with their values, by their keys. -/
def keyed {κ : Type} (options : List (OptionSpec κ × Option String)) : List (κ × Option String) :=
  options.map fun entry => (entry.1.key, entry.2)

namespace Grammar

variable {κ : Type}

/-- What an argument is, which is not two hyphens alone. -/
structure Classifies (grammar : Grammar κ) (argument : String) (kind : ArgumentClass κ) : Prop where
  notDashes : argument ≠ "--"
  classified : grammar.classify argument = .ok kind

/-- An argument stands for options, and for nothing else. None of them shows the help. -/
structure StandsFor (grammar : Grammar κ) (argument : String) (cluster : Cluster κ) : Prop where
  notDashes : argument ≠ "--"
  clustered : ∃ kind, grammar.classify argument = .ok kind ∧
    grammar.cluster? kind = some (.ok cluster)
  whole : cluster.leftover = none
  noHelp : ∀ entry ∈ cluster.given, entry.1.kind ≠ .help

/-- Arguments that are options and the values of options, and what they give. -/
inductive Spells (grammar : Grammar κ) : List String → List (κ × Option String) → Prop
  | nil : grammar.Spells [] []
  | alone {argument cluster words given} (stands : grammar.StandsFor argument cluster)
      (complete : cluster.wanting = none) (others : grammar.Spells words given) :
      grammar.Spells (argument :: words) (keyed cluster.given ++ given)
  | withValue {argument cluster spec value words given}
      (stands : grammar.StandsFor argument cluster) (wants : cluster.wanting = some spec)
      (operand : grammar.Classifies value .operand) (others : grammar.Spells words given) :
      grammar.Spells (argument :: value :: words)
        (keyed (cluster.given ++ [(spec, some value)]) ++ given)

variable {grammar : Grammar κ} {argument : String} {kind : ArgumentClass κ} {cluster : Cluster κ}

theorem classifyAll_cons (classifies : grammar.Classifies argument kind) (rest : List String) :
    grammar.classifyAll (argument :: rest) =
      (grammar.classifyAll rest).map ((argument, kind) :: ·) := by
  rw [classifyAll, if_neg classifies.notDashes, classifies.classified]
  cases grammar.classifyAll rest <;> rfl

/-- Every option that takes a value has one, and only the value of such an option is looked for in the
next argument. -/
structure Cluster.IsValued (cluster : Cluster κ) : Prop where
  given : ∀ entry ∈ cluster.given, entry.1.kind = .value → entry.2.isSome
  wanting : ∀ spec, cluster.wanting = some spec → spec.kind = .value

theorem isValued_alone (spec : OptionSpec κ) : (alone spec).IsValued := by
  unfold Grammar.alone
  split
  next valued =>
    exact ⟨List.forall_mem_nil _, fun _ wants => by rwa [← Option.some.inj wants]⟩
  next notValue =>
    refine ⟨fun entry among valued => ?_, fun _ wants => nomatch wants⟩
    obtain rfl := List.mem_singleton.mp among
    exact absurd valued notValue

theorem isValued_of_withValue {spec : OptionSpec κ} {value : List Char}
    (takes : withValue spec value = .ok cluster) : cluster.IsValued := by
  unfold withValue at takes
  split at takes
  next =>
    obtain rfl := Except.ok.inj takes
    exact ⟨fun entry among _ => List.mem_singleton.mp among ▸ rfl, fun _ wants => nomatch wants⟩
  next => cases takes

theorem isValued_of_takeLetters {spec : OptionSpec κ} {letters : List Char}
    (takes : grammar.takeLetters spec letters = .ok cluster) : cluster.IsValued := by
  have notValue {spec : OptionSpec κ} {letter : Char} {value : Option String}
      (goesOn : ¬ (decide (spec.kind = .value) || decide (letter = '-')) = true)
      (valued : spec.kind = .value) : value.isSome := absurd (by simp [valued]) goesOn
  fun_induction takeLetters grammar spec letters generalizing cluster with
  | case1 spec => exact Except.ok.inj takes ▸ isValued_alone spec
  | case2 spec value => exact isValued_of_withValue takes
  | case3 spec letter rest notEquals ends => exact isValued_of_withValue takes
  | case4 spec letter rest notEquals goesOn next known ih =>
    obtain ⟨inner, taken, rfl⟩ := map_eq_ok_iff.mp takes
    exact ⟨List.forall_mem_cons.mpr ⟨notValue goesOn, (ih taken).given⟩, (ih taken).wanting⟩
  | case5 spec letter rest notEquals goesOn unknown =>
    obtain rfl := Except.ok.inj takes
    exact ⟨List.forall_mem_singleton.mpr (notValue goesOn), fun _ wants => nomatch wants⟩

theorem isValued_of_cluster? (clustered : grammar.cluster? kind = some (.ok cluster)) :
    cluster.IsValued := by
  unfold cluster? at clustered
  split at clustered
  next spec => exact Except.ok.inj (Option.some.inj clustered) ▸ isValued_alone spec
  next => exact isValued_of_withValue (Option.some.inj clustered)
  next => exact isValued_of_takeLetters (Option.some.inj clustered)
  next => cases clustered

theorem StandsFor.isValued (stands : grammar.StandsFor argument cluster) : cluster.IsValued := by
  obtain ⟨kind, -, clustered⟩ := stands.clustered
  exact isValued_of_cluster? clustered

/-- Arguments whose use gives some options come first in what other arguments give. -/
theorem read_of_use {words : List String} {entries : List (Classified κ)}
    {given : List (κ × Option String)} {rest : List String}
    (classifies : grammar.classifyAll (words ++ rest) =
      (grammar.classifyAll rest).map (entries ++ ·))
    (uses : ∀ others, Given.use grammar {} (entries ++ others) =
      Given.use grammar (Given.after given {}) others) :
    grammar.read (words ++ rest) = (grammar.read rest).map (Given.after given) := by
  unfold Grammar.read
  rw [classifies]
  cases grammar.classifyAll rest with
  | error fault => rfl
  | ok others => exact (uses others).trans (Given.use_after given {} grammar others)

theorem take_of_no_help {options : List (OptionSpec κ × Option String)}
    (noHelp : ∀ entry ∈ options, entry.1.kind ≠ .help) :
    Given.take {} options = .ok (Given.after (keyed options) {}) := by
  have unasked : options.any (·.1.kind = .help) = false := by
    simpa using noHelp
  simp [Given.take, unasked, keyed, Given.after]

theorem read_alone (stands : grammar.StandsFor argument cluster)
    (complete : cluster.wanting = none) (rest : List String) :
    grammar.read (argument :: rest) =
      (grammar.read rest).map (Given.after (keyed cluster.given)) := by
  obtain ⟨kind, classified, clustered⟩ := stands.clustered
  refine @read_of_use _ _ [argument] [(argument, kind)] _ rest
    (classifyAll_cons ⟨stands.notDashes, classified⟩ rest) fun others => ?_
  conv => lhs; unfold Given.use
  simp only [List.singleton_append, clustered, stands.whole, complete, Option.map_none, Option.getD_none,
    take_of_no_help stands.noHelp, bind, Except.bind]

theorem read_withValue (stands : grammar.StandsFor argument cluster) {spec : OptionSpec κ}
    (wants : cluster.wanting = some spec) {value : String}
    (operand : grammar.Classifies value .operand) (rest : List String) :
    grammar.read (argument :: value :: rest) =
      (grammar.read rest).map (Given.after (keyed (cluster.given ++ [(spec, some value)]))) := by
  obtain ⟨kind, classified, clustered⟩ := stands.clustered
  have noHelp : ∀ entry ∈ cluster.given ++ [(spec, some value)], entry.1.kind ≠ .help := by
    simp only [List.forall_mem_append, List.forall_mem_singleton]
    exact ⟨stands.noHelp, by simp [stands.isValued.wanting _ wants]⟩
  refine @read_of_use _ _ [argument, value] [(argument, kind), (value, .operand)] _ rest ?_
    fun others => ?_
  · change grammar.classifyAll (argument :: value :: rest) = _
    rw [classifyAll_cons ⟨stands.notDashes, classified⟩, classifyAll_cons operand]
    cases grammar.classifyAll rest <;> rfl
  · conv => lhs; unfold Given.use
    simp only [List.cons_append, List.nil_append, clustered, stands.whole, wants, Option.map_none,
      Option.getD_none, take_of_no_help noHelp, bind, Except.bind]

/-- **Options can be read off the front.** What a run of options gives comes first in what all the
arguments give. -/
theorem read_append {words : List String} {given : List (κ × Option String)}
    (spelled : grammar.Spells words given) (rest : List String) :
    grammar.read (words ++ rest) = (grammar.read rest).map (Given.after given) := by
  have joined (first second : List (κ × Option String)) (read : Except Stop (Given κ)) :
      (read.map (Given.after second)).map (Given.after first) =
        read.map (Given.after (first ++ second)) := by
    cases read with
    | error stop => rfl
    | ok given => simp [Except.map, Given.after]
  induction spelled with
  | nil =>
    change grammar.read rest = _
    cases grammar.read rest <;> rfl
  | alone stands complete others ih =>
    rw [List.cons_append, read_alone stands complete, ih, joined]
  | withValue stands wants operand others ih =>
    rw [List.cons_append, List.cons_append, read_withValue stands wants operand, ih, joined]

/-! ### Reading back -/

theorem exists_of_classifyAll_cons {rest : List String} {classified : List (Classified κ)}
    (notDashes : argument ≠ "--")
    (classifies : grammar.classifyAll (argument :: rest) = .ok classified) :
    ∃ kind others, grammar.Classifies argument kind ∧ grammar.classifyAll rest = .ok others ∧
      classified = (argument, kind) :: others := by
  rw [classifyAll, if_neg notDashes] at classifies
  obtain ⟨kind, first, classifies⟩ := bind_eq_ok_iff.mp classifies
  obtain ⟨others, later, classifies⟩ := bind_eq_ok_iff.mp classifies
  exact ⟨kind, others, ⟨notDashes, first⟩, later, (Except.ok.inj classifies).symm⟩

theorem exists_of_read {arguments : List String} {given : Given κ}
    (reads : grammar.read arguments = .ok given) :
    ∃ classified, grammar.classifyAll arguments = .ok classified ∧
      Given.use grammar {} classified = .ok given := by
  obtain ⟨classified, classifies, uses⟩ := bind_eq_ok_iff.mp reads
  exact ⟨classified, mapError_eq_ok_iff.mp classifies, uses⟩

/-- The value of an option that looks for one in the next argument is no option. -/
theorem classifies_of_read {value : String} {spec : OptionSpec κ} {rest : List String}
    {given : Given κ} (stands : grammar.StandsFor argument cluster)
    (wants : cluster.wanting = some spec) (notDashes : value ≠ "--")
    (reads : grammar.read (argument :: value :: rest) = .ok given) :
    grammar.Classifies value .operand := by
  obtain ⟨kind, classified, clustered⟩ := stands.clustered
  obtain ⟨all, classifies, uses⟩ := exists_of_read reads
  obtain ⟨_, later, first, rest, rfl⟩ := exists_of_classifyAll_cons stands.notDashes classifies
  cases classified.symm.trans first.classified
  obtain ⟨valueKind, others, second, -, rfl⟩ := exists_of_classifyAll_cons notDashes rest
  unfold Given.use at uses
  simp only [clustered, stands.whole, wants, Option.map_none, Option.getD_none] at uses
  split at uses
  next same =>
    obtain ⟨same, -⟩ := List.cons.inj same
    cases same
    exact second
  next => cases uses

theorem eq_of_take {given taken : Given κ} {options : List (OptionSpec κ × Option String)}
    (takes : given.take options = .ok taken) :
    (∀ entry ∈ options, entry.1.kind ≠ .help) ∧
      taken = { given with options := given.options ++ keyed options, isOpen := false } := by
  unfold Given.take at takes
  split at takes
  next => cases takes
  next unasked => exact ⟨by simpa using unasked, (Except.ok.inj takes).symm⟩

theorem extras_of_take {given taken : Given κ} {options : List (OptionSpec κ × Option String)}
    (takes : given.take options = .ok taken) : taken.extras = given.extras := by
  rw [(eq_of_take takes).2]

theorem extras_of_takeOperands (given : Given κ) (operands : List String) (argument : String)
    (used : (given.takeOperands operands argument).extras = []) : given.extras = [] := by
  unfold Given.takeOperands at used
  split at used
  next => exact used
  next =>
    split at used
    next => exact used
    next => exact (List.append_eq_nil_iff.mp used).1

/-- What cannot be used stays. -/
theorem extras_of_use {given outer : Given κ} {arguments : List (Classified κ)}
    (uses : Given.use grammar given arguments = .ok outer) (used : outer.extras = []) :
    given.extras = [] := by
  have kept_of_leave (leftover : Option String) (given : Given κ)
      (none : ((leftover.map given.leave).getD given).extras = []) : given.extras = [] := by
    cases leftover with
    | none => exact none
    | some argument => exact (List.append_eq_nil_iff.mp none).1
  fun_induction Given.use grammar given arguments with
  | case1 given => exact Except.ok.inj uses ▸ used
  | case2 given argument kind rest fault unclustered => cases uses
  | case3 given argument kind rest cluster clustered kept alone ih =>
    obtain ⟨taken, takes, uses⟩ := bind_eq_ok_iff.mp uses
    exact kept_of_leave _ _ ((extras_of_take takes).symm.trans (ih taken uses))
  | case4 given argument kind cluster clustered kept wanting wants value rest ih =>
    obtain ⟨taken, takes, uses⟩ := bind_eq_ok_iff.mp uses
    exact kept_of_leave _ _ ((extras_of_take takes).symm.trans (ih taken uses))
  | case5 given argument kind rest cluster clustered wanting wants missing => cases uses
  | case6 given argument rest unclustered ih => exact (List.append_eq_nil_iff.mp (ih uses)).1
  | case7 given argument kind rest unclustered operands known ih =>
    exact (List.append_eq_nil_iff.mp (ih uses)).1
  | case8 given argument rest operands unclustered ih =>
    exact extras_of_takeOperands _ _ _ (ih uses)
  | case9 given argument kind rest unclustered operands known notDashes ih =>
    exact extras_of_takeOperands _ _ _ (ih uses)
  | case10 given argument operands unclustered =>
    obtain rfl := Except.ok.inj uses
    exact (List.append_eq_nil_iff.mp used).1
  | case11 given argument kind rest unclustered operands known more =>
    obtain rfl := Except.ok.inj uses
    exact used

theorem map_fst_of_classifyAll {arguments : List String} {classified : List (Classified κ)}
    (classifies : grammar.classifyAll arguments = .ok classified) :
    classified.map (·.1) = arguments := by
  induction arguments generalizing classified with
  | nil => exact Except.ok.inj classifies ▸ rfl
  | cons argument rest ih =>
    by_cases dashes : argument = "--"
    · rw [classifyAll, if_pos dashes] at classifies
      obtain rfl := Except.ok.inj classifies
      simp [Function.comp_def]
    · obtain ⟨kind, others, -, later, rfl⟩ := exists_of_classifyAll_cons dashes classifies
      rw [List.map_cons, ih later]

/-- The first of classified arguments is two hyphens alone, or was classified on its own. -/
theorem exists_of_classifyAll {arguments : List String} {later : List (Classified κ)}
    (classifies : grammar.classifyAll arguments = .ok ((argument, kind) :: later)) :
    ∃ rest, arguments = argument :: rest ∧ later.map (·.1) = rest ∧
      (kind = .dashes ∨ grammar.Classifies argument kind ∧ grammar.classifyAll rest = .ok later) := by
  have texts : argument :: later.map (·.1) = arguments := map_fst_of_classifyAll classifies
  refine ⟨later.map (·.1), texts.symm, rfl, ?_⟩
  rw [← texts] at classifies
  by_cases dashes : argument = "--"
  · rw [classifyAll, if_pos dashes] at classifies
    obtain ⟨same, -⟩ := List.cons.inj (Except.ok.inj classifies)
    exact .inl (Prod.mk.inj same).2.symm
  · obtain ⟨_, _, first, rest, same⟩ := exists_of_classifyAll_cons dashes classifies
    cases same
    exact .inr ⟨first, rest⟩

/-- Where everything is used, nothing is left over of an argument when its options are taken. -/
theorem whole_of_take {given taken outer : Given κ} {leftover : Option String}
    {options : List (OptionSpec κ × Option String)} {others : List (Classified κ)}
    (takes : ((leftover.map given.leave).getD given).take options = .ok taken)
    (uses : Given.use grammar taken others = .ok outer) (used : outer.extras = []) :
    leftover = none ∧ (∀ entry ∈ options, entry.1.kind ≠ .help) ∧
      taken = { given with options := given.options ++ keyed options, isOpen := false } := by
  have empty := (extras_of_take takes).symm.trans (extras_of_use uses used)
  cases leftover with
  | none => exact ⟨rfl, eq_of_take takes⟩
  | some argument => exact absurd empty (List.concat_ne_nil argument given.extras)

/-- Arguments before a command that are used are a run of options. After them comes the name of the
command, or nothing. -/
theorem exists_spells_of_use {given outer : Given κ} {classified : List (Classified κ)}
    (commands : grammar.operands = .command)
    (uses : Given.use grammar given classified = .ok outer) (used : outer.extras = []) :
    ∀ arguments, grammar.classifyAll arguments = .ok classified →
      ∃ words options rest, arguments = words ++ rest ∧ grammar.Spells words options ∧
        outer.options = given.options ++ options ∧
        outer.operands = if rest = [] then given.operands else some rest := by
  fun_induction Given.use grammar given classified with
  | case1 given =>
    intro arguments classifies
    obtain rfl := Except.ok.inj uses
    obtain rfl := (map_fst_of_classifyAll classifies).symm
    exact ⟨[], [], [], rfl, .nil, (List.append_nil _).symm, rfl⟩
  | case2 given argument kind rest fault unclustered => cases uses
  | case3 given argument kind others cluster clustered kept complete ih =>
    intro arguments classifies
    obtain ⟨taken, takes, uses⟩ := bind_eq_ok_iff.mp uses
    obtain ⟨rest, rfl, -, rfl | ⟨first, later⟩⟩ := exists_of_classifyAll classifies
    · cases clustered
    obtain ⟨whole, noHelp, rfl⟩ := whole_of_take takes uses used
    obtain ⟨words, options, rest, rfl, spelled, gives, operands⟩ := ih _ uses _ later
    refine ⟨argument :: words, keyed cluster.given ++ options, rest, rfl, .alone
      ⟨first.notDashes, ⟨_, first.classified, clustered⟩, whole, noHelp⟩ complete spelled, ?_,
      operands⟩
    rw [gives, List.append_assoc]
  | case4 given argument kind cluster clustered kept wanting wants value others ih =>
    intro arguments classifies
    obtain ⟨taken, takes, uses⟩ := bind_eq_ok_iff.mp uses
    obtain ⟨rest, rfl, -, rfl | ⟨first, later⟩⟩ := exists_of_classifyAll classifies
    · cases clustered
    obtain ⟨rest, rfl, -, dashes | ⟨second, later⟩⟩ := exists_of_classifyAll later
    · cases dashes
    obtain ⟨whole, noHelp, rfl⟩ := whole_of_take takes uses used
    obtain ⟨words, options, rest, rfl, spelled, gives, operands⟩ := ih _ uses _ later
    have noHelp : ∀ entry ∈ cluster.given, entry.1.kind ≠ .help :=
      fun entry among => noHelp entry (List.mem_append_left _ among)
    refine ⟨argument :: value :: words, keyed (cluster.given ++ [(wanting, some value)]) ++ options,
      rest, rfl, .withValue ⟨first.notDashes, ⟨_, first.classified, clustered⟩, whole, noHelp⟩ wants
        second spelled, ?_, operands⟩
    rw [gives, List.append_assoc]
  | case5 given argument kind rest cluster clustered wanting wants missing => cases uses
  | case6 given argument rest unclustered ih =>
    exact absurd (extras_of_use uses used) (List.concat_ne_nil argument given.extras)
  | case7 given argument kind rest unclustered operands known ih =>
    cases commands.symm.trans operands
  | case8 given argument rest operands unclustered ih => cases commands.symm.trans operands
  | case9 given argument kind rest unclustered operands known notDashes ih =>
    cases commands.symm.trans operands
  | case10 given argument operands unclustered =>
    obtain rfl := Except.ok.inj uses
    exact absurd used (List.concat_ne_nil argument given.extras)
  | case11 given argument kind rest unclustered operands known more =>
    intro arguments classifies
    obtain rfl := Except.ok.inj uses
    obtain rfl := map_fst_of_classifyAll classifies
    exact ⟨[], [], _, rfl, .nil, (List.append_nil _).symm, rfl⟩

end Grammar

/-- The option of the log file. -/
def logFileOption : OptionSpec OptionKey := ⟨["--log-file"], .value, .logFile⟩

/-- The argument that asks for a log file. -/
def logFileArgument (text : String) : String := "--log-file=" ++ text

theorem toList_logFileArgument (text : String) :
    (logFileArgument text).toList = "--log-file".toList ++ '=' :: text.toList := by
  rw [logFileArgument, String.toList_append]
  rfl

theorem classify_logFileArgument (scope : Scope) (text : String) :
    scope.grammar.classify (logFileArgument text) =
      .ok (.option logFileOption (some text.toList)) := by
  have characters := toList_logFileArgument text
  have unnamed : scope.grammar.option? (logFileArgument text) = none := by
    refine List.lookup_eq_none_iff.mpr fun entry listed => ?_
    have plain : '=' ∉ entry.1.toList := by
      revert entry
      match scope with
      | .program => decide
      | .command .convert => decide
      | .command .generate => decide
    have different : logFileArgument text ≠ entry.1 := by
      intro same
      rw [← same, characters] at plain
      simp at plain
    simpa using different
  unfold Grammar.classify
  rw [unnamed, characters]
  match scope with
  | .program => rfl
  | .command .convert => rfl
  | .command .generate => rfl

theorem spells_logFileArgument (scope : Scope) (text : String) :
    scope.grammar.Spells [logFileArgument text] [(.logFile, some text)] := by
  have notDashes : logFileArgument text ≠ "--" := by
    intro same
    have characters := toList_logFileArgument text
    rw [same] at characters
    cases characters
  have clustered : scope.grammar.cluster? (.option logFileOption (some text.toList)) =
      some (.ok { given := [(logFileOption, some text)] }) := by
    simp [Grammar.cluster?, Grammar.withValue, logFileOption]
  have stands : scope.grammar.StandsFor (logFileArgument text)
      { given := [(logFileOption, some text)] } :=
    ⟨notDashes, ⟨_, classify_logFileArgument scope text, clustered⟩, rfl, by simp [logFileOption]⟩
  exact .alone stands rfl .nil

theorem Scope.read_append {scope : Scope} {words : List String}
    {given : List (OptionKey × Option String)} (spelled : scope.grammar.Spells words given)
    (rest : List String) : scope.read (words ++ rest) = (scope.read rest).map (Given.after given) := by
  unfold Scope.read
  rw [Grammar.read_append spelled]
  cases scope.grammar.read rest <;> rfl

theorem read_logFileArgument (text : String) (arguments : List String) :
    Scope.program.read (logFileArgument text :: arguments) =
      (Scope.program.read arguments).map (Given.after [(.logFile, some text)]) :=
  Scope.read_append (spells_logFileArgument .program text) arguments

theorem Given.lookup_of_not_has {given : Given OptionKey} {key : OptionKey}
    (absent : given.has key = false) : given.options.reverse.lookup key = none := by
  refine List.lookup_eq_none_iff.mpr fun entry listed => ?_
  have other := List.any_eq_false.mp absent entry (List.mem_reverse.mp listed)
  simpa using fun same : key = entry.1 => other (decide_eq_true same.symm)

/-- What is given asks for the log file that comes before it, if it does not ask for one itself. -/
theorem ofGiven_logFile {text : String} {command : Command} {outer inner : Given OptionKey}
    (absent : outer.has .logFile = false)
    (unlogged : ∀ invocation, Invocation.ofGiven command outer inner = .ok invocation →
      invocation.logFile = none) :
    Invocation.ofGiven command (outer.after [(.logFile, some text)]) inner =
      (Invocation.ofGiven command outer inner).map fun invocation =>
        { invocation with logFile := some text } := by
  have value : (outer.after [(.logFile, some text)]).value? .logFile = some text := by
    rw [Given.value?, Given.after, List.reverse_append, List.lookup_append,
      Given.lookup_of_not_has absent]
    rfl
  have verbose : (outer.after [(.logFile, some text)]).has .verbose = outer.has .verbose := by
    simp [Given.has, Given.after]
  unfold Invocation.ofGiven at unlogged ⊢
  rw [Given.extras_after]
  split at unlogged
  next plain =>
    obtain ⟨inside, -⟩ := Option.or_eq_none_iff.mp (unlogged _ rfl)
    simp only [Except.map, value, verbose, inside, Option.or]
  next => rfl

variable {text : String} {arguments : List String}

/-- An option of the log file before all other arguments asks for a log file, if no other option
does. -/
theorem ofArguments_logFileArgument
    (absent : ∀ outer, Scope.program.read arguments = .ok outer → outer.has .logFile = false)
    (unlogged : ∀ invocation, Invocation.ofArguments arguments = .ok invocation →
      invocation.logFile = none) :
    Invocation.ofArguments (logFileArgument text :: arguments) =
      (Invocation.ofArguments arguments).map fun invocation =>
        { invocation with logFile := some text } := by
  unfold Invocation.ofArguments at unlogged ⊢
  rw [read_logFileArgument]
  cases first : Scope.program.read arguments with
  | error refusal => rfl
  | ok outer =>
    rw [first] at unlogged
    simp only [bind, Except.bind, Except.map, Given.operands_after] at unlogged ⊢
    split
    next => rfl
    next name rest named =>
      rw [named] at unlogged
      dsimp only at unlogged
      split
      next => rfl
      next command known =>
        rw [known] at unlogged
        dsimp only at unlogged
        cases second : (Scope.command command).read rest with
        | error refusal => rfl
        | ok inner =>
          rw [second] at unlogged
          exact ofGiven_logFile (absent outer first) unlogged

end MemberDocs.CommandLine
