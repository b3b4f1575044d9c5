import MemberDocs.Proofs.CommandLine.ArgumentClasses

/-! # The program's options among those of a command

A command has the options of the program and some of its own. No option of the program begins as one of
the command's own does, beyond the hyphens, so what the program takes for one of its options, also if
it is shortened, the command takes for the same (`Grammar.StandsFor.of_program`). The other way round
this holds of what gives options of the log alone (`Grammar.Spells.to_program`).
-/

namespace MemberDocs.CommandLine

/-! ## The options of a command -/

/-- A command's own options. -/
def Command.own (command : Command) : Grammar OptionKey := ⟨command.options, command.operands⟩

namespace Scope

variable (command : Command)

theorem optionNames_command :
    (Scope.command command).grammar.optionNames =
      Scope.program.grammar.optionNames ++ command.own.optionNames :=
  List.flatMap_append

theorem option?_command (name : String) :
    (Scope.command command).grammar.option? name =
      (Scope.program.grammar.option? name).or (command.own.option? name) := by
  unfold Grammar.option?
  rw [optionNames_command, List.lookup_append]

variable {command} in
theorem option?_of_command {name : String}
    (unnamed : (Scope.command command).grammar.option? name = none) :
    Scope.program.grammar.option? name = none := by
  rw [option?_command] at unnamed
  exact (Option.or_eq_none_iff.mp unnamed).1

theorem candidates_command (argument : List Char) :
    (Scope.command command).grammar.candidates argument =
      Scope.program.grammar.candidates argument ++ command.own.candidates argument := by
  unfold Grammar.candidates
  rw [optionNames_command]
  split
  next => simp only [List.filter_append, List.map_append]
  next => exact List.filterMap_append
  next => rfl

variable {command}

/-- No option of the program begins as an own option of a command does, beyond the hyphens. -/
theorem beginnings_apart (command : Command) : ∀ outer ∈ Scope.program.grammar.optionNames,
    ∀ inner ∈ command.own.optionNames,
      (outer.1.toList[2]? = inner.1.toList[2]? → outer.1.toList[2]? = none) ∧
        (outer.1.toList[1]? = inner.1.toList[1]? → outer.1.toList[1]? = some '-') := by
  cases command <;> decide

theorem own_names_look (command : Command) : ∀ inner ∈ command.own.optionNames,
    Grammar.isOptionName inner.1.toList ∧ splitEquals inner.1.toList = (inner.1.toList, none) := by
  cases command <;> decide

/-- What is short for an option of the program alone is short for no own option of a command. -/
theorem own_candidates {argument : List Char} {name : String} {kind : ArgumentClass OptionKey}
    (only : Scope.program.grammar.candidates argument = [(name, kind)]) :
    command.own.candidates argument = [] := by
  have outer : (name, kind) ∈ Scope.program.grammar.candidates argument :=
    only ▸ List.mem_singleton_self _
  obtain ⟨spec, -, common⟩ := Grammar.exists_spec_of_candidate outer
  refine List.eq_nil_iff_forall_not_mem.mpr fun entry inner => ?_
  obtain ⟨ownSpec, -, own⟩ := Grammar.exists_spec_of_candidate inner
  obtain ⟨third, second⟩ := beginnings_apart command _ common _ own
  obtain ⟨letter, rest, rfl⟩ := Grammar.hyphened_of_candidate outer
  by_cases hyphen : letter = '-'
  case neg =>
    have begins := Grammar.second_of_candidate hyphen outer
    have same := second (begins.trans (Grammar.second_of_candidate hyphen inner).symm)
    exact hyphen (Option.some.inj (begins.symm.trans same))
  subst hyphen
  obtain ⟨tail, begins⟩ := Grammar.prefix_of_candidate outer
  obtain ⟨ownTail, ownBegins⟩ := Grammar.prefix_of_candidate inner
  cases more : (splitEquals rest).1 with
  | nil =>
    -- Two hyphens alone are the beginning of every long name.
    have all : Scope.program.grammar.candidates ('-' :: '-' :: rest) =
        (Scope.program.grammar.optionNames.filter fun entry => ['-', '-'].isPrefixOf entry.1.toList).map
          fun entry => (entry.1, .option entry.2 (splitEquals rest).2) := by
      unfold Grammar.candidates
      rw [Grammar.splitEquals_hyphens, more]
      rfl
    rw [all] at only
    cases congrArg List.length only
  | cons letter more =>
    rw [more] at begins ownBegins
    have there : name.toList[2]? = some letter := congrArg (·[2]?) begins.symm
    have ownThere : entry.1.toList[2]? = some letter := congrArg (·[2]?) ownBegins.symm
    cases there.symm.trans (third (there.trans ownThere.symm))

/-- What can mean no own option of a command does not begin with the name of one. -/
theorem own_option?_of_short {argument name : String}
    (short : command.own.candidates argument.toList = [])
    (leads : splitEquals name.toList = (name.toList, none) →
      ∃ value, splitEquals argument.toList = (name.toList, value)) :
    command.own.option? name = none := by
  cases found : command.own.option? name with
  | none => rfl
  | some spec =>
    have listed := Grammar.mem_optionNames_of_option? found
    obtain ⟨looks, plain⟩ := own_names_look command _ listed
    obtain ⟨value, begins⟩ := leads plain
    exact absurd short (Grammar.candidates_ne_nil listed looks begins)

theorem own_option?_of_splits {argument : String} {name value : List Char}
    (splits : splitEquals argument.toList = (name, some value)) :
    command.own.option? argument = none := by
  cases found : command.own.option? argument with
  | none => rfl
  | some spec =>
    have plain := (own_names_look command _ (Grammar.mem_optionNames_of_option? found)).2
    cases splits.symm.trans plain

/-- The program's options have their keys to themselves. -/
theorem own_keys (command : Command) : ∀ spec ∈ command.options,
    spec.key ≠ .verbose ∧ spec.key ≠ .logFile := by
  cases command <;> simp [Command.options]

end Scope

/-! ## Options in both scopes -/

namespace Grammar

/-- The key of an option of the log. -/
def IsLogging (key : OptionKey) : Prop := key = .verbose ∨ key = .logFile

variable {command : Command} {argument : String} {kind : ArgumentClass OptionKey}
  {spec : OptionSpec OptionKey}

theorem not_isLogging_of_own (own : spec ∈ command.options) : ¬ IsLogging spec.key := by
  obtain ⟨notVerbose, notLogFile⟩ := Scope.own_keys command spec own
  rintro (verbose | logFile)
  · exact notVerbose verbose
  · exact notLogFile logFile

theorem option?_to_program {name : String}
    (named : (Scope.command command).grammar.option? name = some spec) (logging : IsLogging spec.key) :
    Scope.program.grammar.option? name = some spec := by
  rw [Scope.option?_command] at named
  rcases Option.or_eq_some_iff.mp named with outer | ⟨-, own⟩
  · exact outer
  · exact absurd logging (not_isLogging_of_own (mem_options_of_option? own))

/-- What the program takes for one of its options, a command takes for the same. -/
theorem Names.of_program (names : Scope.program.grammar.Names argument kind) :
    (Scope.command command).grammar.Names argument kind := by
  cases names with
  | whole named => exact .whole (by rw [Scope.option?_command, named, Option.some_or])
  | withValue unnamed splits named =>
    refine .withValue ?_ splits ?_
    · rw [Scope.option?_command, unnamed, Scope.own_option?_of_splits splits, Option.none_or]
    · rw [Scope.option?_command, named, Option.some_or]
  | @short short _ unnamed only =>
    have own : command.own.candidates argument.toList = [] := Scope.own_candidates only
    refine @Names.short _ _ _ short _ ⟨?_, fun name value splits => ?_⟩ ?_
    · rw [Scope.option?_command, unnamed.unnamed, Option.none_or]
      exact Scope.own_option?_of_short own fun plain => ⟨none, plain⟩
    · rw [Scope.option?_command, unnamed.noValue name value splits, Option.none_or]
      refine Scope.own_option?_of_short own fun _ => ⟨some value, ?_⟩
      rw [splits, String.toList_ofList]
    · rw [Scope.candidates_command, only, own, List.append_nil]

theorem isUnnamed_of_command (unnamed : (Scope.command command).grammar.IsUnnamed argument) :
    Scope.program.grammar.IsUnnamed argument where
  unnamed := Scope.option?_of_command unnamed.unnamed
  noValue name value splits := Scope.option?_of_command (unnamed.noValue name value splits)

/-- What a command takes for an option of the log, the program takes for the same. -/
theorem Names.to_program (names : (Scope.command command).grammar.Names argument kind)
    (found : kind.spec? = some spec) (logging : IsLogging spec.key) :
    Scope.program.grammar.Names argument kind := by
  cases names with
  | whole named =>
    cases found
    exact .whole (option?_to_program named logging)
  | withValue unnamed splits named =>
    cases found
    exact .withValue (Scope.option?_of_command unnamed) splits
      (option?_to_program named logging)
  | @short short _ unnamed only =>
    refine @Names.short _ _ _ short _ (isUnnamed_of_command unnamed) ?_
    rw [Scope.candidates_command] at only
    rcases List.append_eq_singleton_iff.mp only with ⟨-, own⟩ | ⟨outer, -⟩
    · obtain ⟨ownSpec, found', listed⟩ := exists_spec_of_candidate (own ▸ List.mem_singleton_self _)
      cases found.symm.trans found'
      exact absurd logging (not_isLogging_of_own (mem_options_of_mem_optionNames listed))
    · exact outer

/-- What is no option for a command is none for the program. -/
theorem Classifies.to_program {value : String}
    (operand : (Scope.command command).grammar.Classifies value .operand) :
    Scope.program.grammar.Classifies value .operand := by
  refine ⟨operand.notDashes, ?_⟩
  by_cases hyphened : IsHyphened value
  case neg => exact classify_of_not_hyphened hyphened
  obtain ⟨unnamed, notShort, looks⟩ := isPlain_of_classify operand.classified hyphened
  rw [Scope.candidates_command] at notShort
  exact IsPlain.classify ⟨isUnnamed_of_command unnamed, (List.append_eq_nil_iff.mp notShort).1, looks⟩
    hyphened

theorem takeLetters_of_program {letters : List Char} {cluster : Cluster OptionKey}
    (whole : cluster.leftover = none)
    (takes : Scope.program.grammar.takeLetters spec letters = .ok cluster) :
    (Scope.command command).grammar.takeLetters spec letters = .ok cluster := by
  fun_induction takeLetters Scope.program.grammar spec letters generalizing cluster with
  | case1 spec => exact takes
  | case2 spec value => rw [takeLetters, takes]
  | case3 spec letter rest notEquals ends => rw [takeLetters, if_pos ends, takes]; exact notEquals
  | case4 spec letter rest notEquals goesOn next known ih =>
    obtain ⟨inner, taken, rfl⟩ := map_eq_ok_iff.mp takes
    rw [takeLetters, if_neg goesOn, Scope.option?_command, known, Option.some_or]
    · exact map_eq_ok_iff.mpr ⟨inner, ih whole taken, rfl⟩
    · exact notEquals
  | case5 spec letter rest notEquals goesOn unknown =>
    obtain rfl := Except.ok.inj takes
    cases whole

theorem takeLetters_to_program {letters : List Char} {cluster : Cluster OptionKey}
    (listed : spec ∈ (Scope.command command).grammar.options) (whole : cluster.leftover = none)
    (logging : ∀ spec ∈ cluster.specs, IsLogging spec.key)
    (takes : (Scope.command command).grammar.takeLetters spec letters = .ok cluster) :
    Scope.program.grammar.takeLetters spec letters = .ok cluster := by
  fun_induction takeLetters (Scope.command command).grammar spec letters generalizing cluster with
  | case1 spec => exact takes
  | case2 spec value => rw [takeLetters, takes]
  | case3 spec letter rest notEquals ends => rw [takeLetters, if_pos ends, takes]; exact notEquals
  | case4 spec letter rest notEquals goesOn next known ih =>
    obtain ⟨inner, taken, rfl⟩ := map_eq_ok_iff.mp takes
    have later : ∀ spec ∈ inner.specs, IsLogging spec.key :=
      fun spec among => logging spec (List.mem_cons_of_mem _ among)
    have among := mem_options_of_option? known
    have first := later next (specs_of_takeLetters among taken).1
    rw [takeLetters, if_neg goesOn, option?_to_program known first]
    · exact map_eq_ok_iff.mpr ⟨inner, ih among whole later taken, rfl⟩
    · exact notEquals
  | case5 spec letter rest notEquals goesOn unknown =>
    obtain rfl := Except.ok.inj takes
    cases whole

variable {cluster : Cluster OptionKey} {words rest : List String}
  {given : List (OptionKey × Option String)}

/-- What stands for options of the program stands for the same options of a command. -/
theorem StandsFor.of_program (stands : Scope.program.grammar.StandsFor argument cluster) :
    (Scope.command command).grammar.StandsFor argument cluster := by
  obtain ⟨kind, spec, found, hyphened, names, clustered⟩ := stands.exists_names
  refine ⟨stands.notDashes, ⟨kind, names.of_program.classify hyphened, ?_⟩, stands.whole,
    stands.noHelp⟩
  cases kind with
  | option spec value => cases value <;> exact clustered
  | letter spec rest =>
    exact congrArg some (takeLetters_of_program stands.whole (Option.some.inj clustered))
  | operand | dashes | unknown => cases found

/-- What stands for options of the log alone among those of a command stands for the same options of the
program. -/
theorem StandsFor.to_program (stands : (Scope.command command).grammar.StandsFor argument cluster)
    (logging : ∀ spec ∈ cluster.specs, IsLogging spec.key) :
    Scope.program.grammar.StandsFor argument cluster := by
  obtain ⟨kind, spec, found, hyphened, names, clustered⟩ := stands.exists_names
  have listed := names.mem_options found
  have first := logging spec (specs_of_cluster? found listed clustered).1
  refine ⟨stands.notDashes, ⟨kind, (names.to_program found first).classify hyphened, ?_⟩,
    stands.whole, stands.noHelp⟩
  cases kind with
  | option spec value => cases value <;> exact clustered
  | letter spec rest =>
    cases found
    exact congrArg some
      (takeLetters_to_program listed stands.whole logging (Option.some.inj clustered))
  | operand | dashes | unknown => cases found

theorem forall_mem_keyed_iff {options : List (OptionSpec OptionKey × Option String)}
    {property : OptionKey → Prop} :
    (∀ entry ∈ keyed options, property entry.1) ↔
      ∀ spec ∈ options.map (·.1), property spec.key := by
  simp only [keyed, List.forall_mem_map]

/-- What stands before a command gives options of the log alone. -/
theorem Spells.isLogging (spelled : Scope.program.grammar.Spells words given) :
    ∀ entry ∈ given, IsLogging entry.1 := by
  have common : ∀ spec ∈ commonOptions, spec.kind ≠ .help → IsLogging spec.key := by
    simp [commonOptions, IsLogging]
  intro entry among
  obtain ⟨spec, listed, key, noHelp, -⟩ := spelled.offers entry among
  exact key ▸ common spec listed noHelp

/-- Options of the log that a command reads, the program reads alike. -/
theorem Spells.to_program (spelled : (Scope.command command).grammar.Spells words given)
    (logging : ∀ entry ∈ given, IsLogging entry.1) : Scope.program.grammar.Spells words given := by
  induction spelled with
  | nil => exact .nil
  | alone stands complete others ih =>
    obtain ⟨first, later⟩ := List.forall_mem_append.mp logging
    rw [forall_mem_keyed_iff, ← specs_of_complete complete] at first
    exact .alone (stands.to_program first) complete (ih later)
  | withValue stands wants operand others ih =>
    obtain ⟨first, later⟩ := List.forall_mem_append.mp logging
    rw [forall_mem_keyed_iff, ← specs_of_wanting _ wants] at first
    exact .withValue (stands.to_program first) wants operand.to_program (ih later)

/-- Options before the command that a command reads behind it, it reads alike. -/
theorem Spells.of_program (spelled : Scope.program.grammar.Spells words given)
    {inner : Given OptionKey} (reads : (Scope.command command).grammar.read (words ++ rest) = .ok inner) :
    (Scope.command command).grammar.Spells words given := by
  induction spelled generalizing inner with
  | nil => exact .nil
  | alone stands complete others ih =>
    rw [List.cons_append, read_alone stands.of_program complete] at reads
    obtain ⟨later, reads, -⟩ := map_eq_ok_iff.mp reads
    exact .alone stands.of_program complete (ih reads)
  | withValue stands wants operand others ih =>
    have inside : (Scope.command command).grammar.Classifies _ .operand :=
      classifies_of_read stands.of_program wants operand.notDashes reads
    rw [List.cons_append, List.cons_append, read_withValue stands.of_program wants inside] at reads
    obtain ⟨later, reads, -⟩ := map_eq_ok_iff.mp reads
    exact .withValue stands.of_program wants inside (ih reads)

end Grammar

end MemberDocs.CommandLine
