import MemberDocs.Proofs.CommandLine.LeadingOptions

/-! # What an argument is found to be

An argument that begins with a hyphen is the name of an option, or short for one, or it begins only like
one (`Grammar.names_of_classify`, `Grammar.isPlain_of_classify`). What arguments give is on offer: each
entry comes from an option that does not show the help, and has a value if the option takes one
(`Grammar.offers_of_read`).
-/

namespace MemberDocs.CommandLine

/-- The option that an argument is found to be. -/
def ArgumentClass.spec? {κ : Type} : ArgumentClass κ → Option (OptionSpec κ)
  | .option spec _ => some spec
  | .letter spec _ => some spec
  | _ => none

/-! ## Where options are found -/

namespace Grammar

/-- All the options of an argument. -/
def Cluster.specs {κ : Type} (cluster : Cluster κ) : List (OptionSpec κ) :=
  cluster.given.map (·.1) ++ cluster.wanting.toList

variable {κ : Type} {grammar : Grammar κ} {name : String} {argument : List Char}
  {spec : OptionSpec κ} {cluster : Cluster κ}

theorem mem_options_of_mem_optionNames {entry : String × OptionSpec κ}
    (listed : entry ∈ grammar.optionNames) : entry.2 ∈ grammar.options := by
  obtain ⟨spec, among, named⟩ := List.mem_flatMap.mp listed
  obtain ⟨name, -, rfl⟩ := List.mem_map.mp named
  exact among

theorem mem_optionNames_of_option? (found : grammar.option? name = some spec) :
    (name, spec) ∈ grammar.optionNames := by
  obtain ⟨before, after, names, -⟩ := List.lookup_eq_some_iff.mp found
  rw [names]
  exact List.mem_append_right _ List.mem_cons_self

theorem mem_options_of_option? (found : grammar.option? name = some spec) :
    spec ∈ grammar.options :=
  mem_options_of_mem_optionNames (mem_optionNames_of_option? found)

theorem hyphened_of_candidate {entry : String × ArgumentClass κ}
    (candidate : entry ∈ grammar.candidates argument) :
    ∃ second rest, argument = '-' :: second :: rest := by
  unfold candidates at candidate
  split at candidate
  next rest => exact ⟨'-', rest, rfl⟩
  next letter rest _ => exact ⟨letter, rest, rfl⟩
  next => cases candidate

theorem exists_spec_of_candidate {entry : String × ArgumentClass κ}
    (candidate : entry ∈ grammar.candidates argument) :
    ∃ spec, entry.2.spec? = some spec ∧ (entry.1, spec) ∈ grammar.optionNames := by
  unfold candidates at candidate
  split at candidate
  next =>
    obtain ⟨named, among, rfl⟩ := List.mem_map.mp candidate
    exact ⟨named.2, rfl, (List.mem_filter.mp among).1⟩
  next =>
    obtain ⟨named, among, shown⟩ := List.mem_filterMap.mp candidate
    split at shown
    next => exact Option.some.inj shown ▸ ⟨named.2, rfl, among⟩
    next =>
      split at shown
      next => exact Option.some.inj shown ▸ ⟨named.2, rfl, among⟩
      next => cases shown
  next => cases candidate

theorem splitEquals_hyphens (rest : List Char) :
    splitEquals ('-' :: '-' :: rest) = ('-' :: '-' :: (splitEquals rest).1, (splitEquals rest).2) := rfl

theorem exists_append_of_splitEquals (argument : List Char) :
    ∃ tail, argument = (splitEquals argument).1 ++ tail := by
  induction argument with
  | nil => exact ⟨[], rfl⟩
  | cons c rest ih =>
    obtain ⟨tail, same⟩ := ih
    unfold splitEquals
    split
    next => exact ⟨c :: rest, rfl⟩
    next => exact ⟨tail, congrArg (c :: ·) same⟩

theorem prefix_of_candidate {entry : String × ArgumentClass κ} {rest : List Char}
    (candidate : entry ∈ grammar.candidates ('-' :: '-' :: rest)) :
    '-' :: '-' :: (splitEquals rest).1 <+: entry.1.toList := by
  obtain ⟨named, among, rfl⟩ := List.mem_map.mp candidate
  exact List.isPrefixOf_iff_prefix.mp (List.mem_filter.mp among).2

theorem candidates_letter {letter : Char} (notHyphen : letter ≠ '-') (rest : List Char) :
    grammar.candidates ('-' :: letter :: rest) =
      grammar.optionNames.filterMap fun entry =>
        if entry.1.toList = ['-', letter] then some (entry.1, .letter entry.2 rest)
        else if ('-' :: letter :: rest).isPrefixOf entry.1.toList then
          some (entry.1, .option entry.2 none)
        else none := by
  unfold candidates
  split
  next same => exact absurd (List.cons.inj (List.cons.inj same).2).1 notHyphen
  next same => cases same; rfl
  next other => exact absurd rfl (other letter rest)

theorem second_of_candidate {entry : String × ArgumentClass κ} {letter : Char} {rest : List Char}
    (notHyphen : letter ≠ '-') (candidate : entry ∈ grammar.candidates ('-' :: letter :: rest)) :
    entry.1.toList[1]? = some letter := by
  rw [candidates_letter notHyphen] at candidate
  obtain ⟨named, -, shown⟩ := List.mem_filterMap.mp candidate
  split at shown
  next same => exact Option.some.inj shown ▸ congrArg (·[1]?) same
  next =>
    split at shown
    next begins =>
      obtain ⟨tail, same⟩ := List.isPrefixOf_iff_prefix.mp begins
      exact Option.some.inj shown ▸ congrArg (·[1]?) same.symm
    next => cases shown

/-- How the name of an option looks: a hyphen and a letter, or two hyphens and more. -/
def isOptionName : List Char → Bool
  | ['-', letter] => letter ≠ '-'
  | '-' :: '-' :: _ :: _ => true
  | _ => false

/-- The name of an option, maybe with a value, can mean the option. -/
theorem candidates_ne_nil {value : Option (List Char)} (listed : (name, spec) ∈ grammar.optionNames)
    (looks : isOptionName name.toList) (leads : splitEquals argument = (name.toList, value)) :
    grammar.candidates argument ≠ [] := by
  obtain ⟨tail, whole⟩ := exists_append_of_splitEquals argument
  rw [leads] at whole
  unfold isOptionName at looks
  split at looks
  next letter same =>
    rw [same] at whole
    subst whole
    refine List.ne_nil_of_mem (a := (name, .letter spec tail)) ?_
    rw [List.cons_append, List.cons_append, List.nil_append,
      candidates_letter (of_decide_eq_true looks)]
    exact List.mem_filterMap.mpr ⟨(name, spec), listed, if_pos same⟩
  next third more same =>
    rw [same] at whole
    refine List.ne_nil_of_mem (a := (name, .option spec value)) ?_
    unfold candidates
    split
    next =>
      rw [leads]
      exact List.mem_map.mpr
        ⟨(name, spec), List.mem_filter.mpr ⟨listed, List.isPrefixOf_iff_prefix.mpr List.prefix_rfl⟩, rfl⟩
    next letter rest notTwo =>
      exact (notTwo (List.cons.inj (List.cons.inj whole).2).1).elim
    next notTwo _ => exact absurd whole (notTwo _)
  next => cases looks

/-! ## What an argument is found to be -/

/-- A text that can be an option: a hyphen is not all of it. -/
def IsHyphened (argument : String) : Prop :=
  ∃ second rest, argument.toList = '-' :: second :: rest

/-- A text that is no name of an option, also up to an equals sign. -/
structure IsUnnamed (grammar : Grammar κ) (argument : String) : Prop where
  unnamed : grammar.option? argument = none
  noValue : ∀ name value, splitEquals argument.toList = (name, some value) →
    grammar.option? (String.ofList name) = none

/-- How a text is taken for an option. -/
inductive Names (grammar : Grammar κ) (argument : String) : ArgumentClass κ → Prop
  /-- It is the name of an option. -/
  | whole {spec : OptionSpec κ} (named : grammar.option? argument = some spec) :
      grammar.Names argument (.option spec none)
  /-- It is the name of an option with a value. -/
  | withValue {name value : List Char} {spec : OptionSpec κ}
      (unnamed : grammar.option? argument = none)
      (splits : splitEquals argument.toList = (name, some value))
      (named : grammar.option? (String.ofList name) = some spec) :
      grammar.Names argument (.option spec (some value))
  /-- It is short for one option only. -/
  | short {name : String} {kind : ArgumentClass κ} (unnamed : grammar.IsUnnamed argument)
      (only : grammar.candidates argument.toList = [(name, kind)]) :
      grammar.Names argument kind

/-- A text that is no option, though it begins like one. -/
structure IsPlain (grammar : Grammar κ) (argument : String) : Prop extends
    grammar.IsUnnamed argument where
  notShort : grammar.candidates argument.toList = []
  looks : (isNegativeNumber argument.toList || argument.toList.contains ' ') = true

theorem classify_of_not_hyphened {argument : String} (plain : ¬ IsHyphened argument) :
    grammar.classify argument = .ok .operand := by
  unfold classify
  split
  next => rfl
  next => rfl
  next rest notAlone characters =>
    cases rest with
    | nil => exact (notAlone rfl).elim
    | cons second rest => exact absurd ⟨second, rest, characters⟩ plain
  next => rfl

theorem classify_of_hyphened {argument : String} (hyphened : IsHyphened argument) :
    grammar.classify argument =
      match grammar.option? argument, splitEquals argument.toList with
      | some spec, _ => .ok (.option spec none)
      | none, (name, some value) =>
        match grammar.option? (String.ofList name) with
        | some spec => .ok (.option spec (some value))
        | none => grammar.classifyOther argument
      | none, (_, none) => grammar.classifyOther argument := by
  obtain ⟨second, rest, characters⟩ := hyphened
  unfold classify
  rw [characters]
  rfl

variable {argument : String} {kind : ArgumentClass κ}

theorem IsUnnamed.classify (unnamed : grammar.IsUnnamed argument) (hyphened : IsHyphened argument) :
    grammar.classify argument = grammar.classifyOther argument := by
  rw [classify_of_hyphened hyphened, unnamed.unnamed]
  split
  next named => cases named
  next splits => rw [unnamed.noValue _ _ splits]
  next => rfl

theorem names_or_isUnnamed (hyphened : IsHyphened argument)
    (classified : grammar.classify argument = .ok kind) :
    grammar.Names argument kind ∨
      grammar.IsUnnamed argument ∧ grammar.classifyOther argument = .ok kind := by
  rw [classify_of_hyphened hyphened] at classified
  split at classified
  next named => exact .inl (Except.ok.inj classified ▸ .whole named)
  next name value unnamed splits =>
    split at classified
    next named => exact .inl (Except.ok.inj classified ▸ .withValue unnamed splits named)
    next unknown =>
      refine .inr ⟨⟨unnamed, fun other value' splits' => ?_⟩, classified⟩
      cases splits.symm.trans splits'
      exact unknown
  next name unnamed splits =>
    refine .inr ⟨⟨unnamed, fun other value' splits' => ?_⟩, classified⟩
    cases splits.symm.trans splits'

theorem Names.classify (names : grammar.Names argument kind) (hyphened : IsHyphened argument) :
    grammar.classify argument = .ok kind := by
  cases names with
  | whole named => rw [classify_of_hyphened hyphened, named]
  | withValue unnamed splits named =>
    simp only [classify_of_hyphened hyphened, unnamed, splits, named]
  | short unnamed only =>
    rw [unnamed.classify hyphened, classifyOther, only]

theorem names_of_classify (classified : grammar.classify argument = .ok kind)
    (found : kind.spec? = some spec) : IsHyphened argument ∧ grammar.Names argument kind := by
  by_cases hyphened : IsHyphened argument
  case neg =>
    rw [classify_of_not_hyphened hyphened] at classified
    cases Except.ok.inj classified
    cases found
  refine ⟨hyphened, (names_or_isUnnamed hyphened classified).elim id fun ⟨unnamed, other⟩ => ?_⟩
  unfold classifyOther at other
  split at other
  next only => exact .short unnamed (Except.ok.inj other ▸ only)
  next =>
    split at other
    all_goals
      cases Except.ok.inj other
      cases found
  next => cases other

theorem IsPlain.classify (plain : grammar.IsPlain argument) (hyphened : IsHyphened argument) :
    grammar.classify argument = .ok .operand := by
  rw [plain.toIsUnnamed.classify hyphened, classifyOther, plain.notShort]
  exact if_pos plain.looks

theorem isPlain_of_classify (classified : grammar.classify argument = .ok .operand)
    (hyphened : IsHyphened argument) : grammar.IsPlain argument := by
  have no_spec {name : String} {argument : List Char}
      (only : grammar.candidates argument = [(name, .operand)]) : False := by
    obtain ⟨spec, found, -⟩ := exists_spec_of_candidate (only ▸ List.mem_singleton_self _)
    cases found
  rcases names_or_isUnnamed hyphened classified with names | ⟨unnamed, other⟩
  · cases names with
    | short unnamed only => exact (no_spec only).elim
  unfold classifyOther at other
  split at other
  next only => exact (no_spec (Except.ok.inj other ▸ only)).elim
  next notShort =>
    split at other
    next looks => exact ⟨unnamed, notShort, looks⟩
    next => cases other
  next => cases other

/-! ## The options that an argument stands for -/

theorem specs_of_complete (complete : cluster.wanting = none) :
    cluster.specs = cluster.given.map (·.1) := by
  rw [Cluster.specs, complete, Option.toList_none, List.append_nil]

theorem specs_of_wanting (value : Option String) (wants : cluster.wanting = some spec) :
    cluster.specs = (cluster.given ++ [(spec, value)]).map (·.1) := by
  rw [Cluster.specs, wants, List.map_append]
  rfl

theorem specs_alone (spec : OptionSpec κ) : (alone spec).specs = [spec] := by
  unfold alone Cluster.specs
  split <;> rfl

theorem specs_of_withValue {value : List Char} (takes : withValue spec value = .ok cluster) :
    cluster.specs = [spec] := by
  unfold withValue at takes
  split at takes
  next => exact Except.ok.inj takes ▸ rfl
  next => cases takes

/-- The options of letters begin with the first one, and all are options of the grammar. -/
theorem specs_of_takeLetters {letters : List Char} (listed : spec ∈ grammar.options)
    (takes : grammar.takeLetters spec letters = .ok cluster) :
    spec ∈ cluster.specs ∧ ∀ other ∈ cluster.specs, other ∈ grammar.options := by
  have of_single {spec : OptionSpec κ} {cluster : Cluster κ} (listed : spec ∈ grammar.options)
      (specs : cluster.specs = [spec]) :
      spec ∈ cluster.specs ∧ ∀ other ∈ cluster.specs, other ∈ grammar.options := by
    rw [specs]
    exact ⟨List.mem_singleton_self _, List.forall_mem_singleton.mpr listed⟩
  fun_induction takeLetters grammar spec letters generalizing cluster with
  | case1 spec => exact of_single listed (Except.ok.inj takes ▸ specs_alone spec)
  | case2 spec value => exact of_single listed (specs_of_withValue takes)
  | case3 spec letter rest notEquals ends => exact of_single listed (specs_of_withValue takes)
  | case4 spec letter rest notEquals goesOn next known ih =>
    obtain ⟨inner, taken, rfl⟩ := map_eq_ok_iff.mp takes
    have others := (ih (mem_options_of_option? known) taken).2
    exact ⟨List.mem_cons_self, List.forall_mem_cons.mpr ⟨listed, others⟩⟩
  | case5 spec letter rest notEquals goesOn unknown =>
    exact of_single listed (Except.ok.inj takes ▸ rfl)

variable {argument : String} {kind : ArgumentClass κ}

theorem specs_of_cluster? (found : kind.spec? = some spec) (listed : spec ∈ grammar.options)
    (clustered : grammar.cluster? kind = some (.ok cluster)) :
    spec ∈ cluster.specs ∧ ∀ other ∈ cluster.specs, other ∈ grammar.options := by
  cases kind with
  | option spec value =>
    cases found
    cases value with
    | none =>
      exact @specs_of_takeLetters _ grammar _ _ [] listed (Option.some.inj clustered)
    | some value =>
      rw [specs_of_withValue (Option.some.inj clustered)]
      exact ⟨List.mem_singleton_self _, List.forall_mem_singleton.mpr listed⟩
  | letter spec rest =>
    cases found
    exact specs_of_takeLetters listed (Option.some.inj clustered)
  | operand | dashes | unknown => cases found

theorem exists_spec_of_cluster? {cluster : Except ArgumentFault (Cluster κ)}
    (clustered : grammar.cluster? kind = some cluster) : ∃ spec, kind.spec? = some spec := by
  cases kind with
  | option spec value => exact ⟨spec, rfl⟩
  | letter spec rest => exact ⟨spec, rfl⟩
  | operand | dashes | unknown => cases clustered

/-- What stands for options is taken for the first of them. -/
theorem StandsFor.exists_names (stands : grammar.StandsFor argument cluster) :
    ∃ kind spec, kind.spec? = some spec ∧ IsHyphened argument ∧ grammar.Names argument kind ∧
      grammar.cluster? kind = some (.ok cluster) := by
  obtain ⟨kind, classified, clustered⟩ := stands.clustered
  obtain ⟨spec, found⟩ := exists_spec_of_cluster? clustered
  obtain ⟨hyphened, names⟩ := names_of_classify classified found
  exact ⟨kind, spec, found, hyphened, names, clustered⟩

theorem Names.mem_options (names : grammar.Names argument kind) (found : kind.spec? = some spec) :
    spec ∈ grammar.options := by
  cases names with
  | whole named =>
    cases found
    exact mem_options_of_option? named
  | withValue unnamed splits named =>
    cases found
    exact mem_options_of_option? named
  | short unnamed only =>
    obtain ⟨other, found', listed⟩ := exists_spec_of_candidate (only ▸ List.mem_singleton_self _)
    cases found.symm.trans found'
    exact mem_options_of_mem_optionNames listed

/-- An entry that an option of the grammar gives: it does not show the help, and if it takes a value, it
has one. -/
def Offers (grammar : Grammar κ) (entry : κ × Option String) : Prop :=
  ∃ spec ∈ grammar.options, entry.1 = spec.key ∧ spec.kind ≠ .help ∧
    (spec.kind = .value → entry.2.isSome)

theorem options_takeOperands (given : Given κ) (operands : List String) (argument : String) :
    (given.takeOperands operands argument).options = given.options := by
  unfold Given.takeOperands
  split
  next => rfl
  next => split <;> rfl

theorem offers_of_take {given taken : Given κ} {options : List (OptionSpec κ × Option String)}
    (takes : given.take options = .ok taken)
    (before : ∀ entry ∈ given.options, grammar.Offers entry)
    (listed : ∀ entry ∈ options, entry.1 ∈ grammar.options)
    (valued : ∀ entry ∈ options, entry.1.kind = .value → entry.2.isSome) :
    ∀ entry ∈ taken.options, grammar.Offers entry := by
  obtain ⟨noHelp, rfl⟩ := eq_of_take takes
  refine List.forall_mem_append.mpr ⟨before, ?_⟩
  rw [keyed, List.forall_mem_map]
  exact fun entry among =>
    ⟨entry.1, listed entry among, rfl, noHelp entry among, valued entry among⟩

theorem offers_of_use {given outer : Given κ} {classified : List (Classified κ)}
    (listed : ∀ entry ∈ classified, ∀ spec, entry.2.spec? = some spec → spec ∈ grammar.options)
    (uses : Given.use grammar given classified = .ok outer)
    (before : ∀ entry ∈ given.options, grammar.Offers entry) :
    ∀ entry ∈ outer.options, grammar.Offers entry := by
  have kept_leftover (leftover : Option String) (given : Given κ) :
      ((leftover.map given.leave).getD given).options = given.options := by
    cases leftover <;> rfl
  have specs_listed {argument : String} {kind : ArgumentClass κ} {cluster : Cluster κ}
      {rest : List (Classified κ)}
      (listed : ∀ entry ∈ (argument, kind) :: rest, ∀ spec, entry.2.spec? = some spec →
        spec ∈ grammar.options)
      (clustered : grammar.cluster? kind = some (.ok cluster)) :
      ∀ spec ∈ cluster.specs, spec ∈ grammar.options := by
    obtain ⟨spec, found⟩ := exists_spec_of_cluster? clustered
    exact (specs_of_cluster? found (listed _ List.mem_cons_self spec found) clustered).2
  fun_induction Given.use grammar given classified with
  | case1 given => exact Except.ok.inj uses ▸ before
  | case2 given argument kind rest fault unclustered => cases uses
  | case3 given argument kind rest cluster clustered kept complete ih =>
    obtain ⟨taken, takes, uses⟩ := bind_eq_ok_iff.mp uses
    obtain ⟨-, later⟩ := List.forall_mem_cons.mp listed
    have among := specs_listed listed clustered
    rw [specs_of_complete complete, List.forall_mem_map] at among
    exact ih taken later uses (offers_of_take takes (by rwa [kept_leftover]) among
      (isValued_of_cluster? clustered).given)
  | case4 given argument kind cluster clustered kept wanting wants value rest ih =>
    obtain ⟨taken, takes, uses⟩ := bind_eq_ok_iff.mp uses
    obtain ⟨-, later⟩ := List.forall_mem_cons.mp listed
    have among := specs_listed listed clustered
    rw [specs_of_wanting (some value) wants, List.forall_mem_map] at among
    refine ih taken (List.forall_mem_cons.mp later).2 uses
      (offers_of_take takes (by rwa [kept_leftover]) among ?_)
    exact List.forall_mem_append.mpr
      ⟨(isValued_of_cluster? clustered).given, List.forall_mem_singleton.mpr fun _ => rfl⟩
  | case5 given argument kind rest cluster clustered wanting wants missing => cases uses
  | case6 given argument rest unclustered ih =>
    exact ih (List.forall_mem_cons.mp listed).2 uses before
  | case7 given argument kind rest unclustered operands known ih =>
    exact ih (List.forall_mem_cons.mp listed).2 uses before
  | case8 given argument rest operands unclustered ih =>
    exact ih (List.forall_mem_cons.mp listed).2 uses (by rwa [options_takeOperands])
  | case9 given argument kind rest unclustered operands known notDashes ih =>
    exact ih (List.forall_mem_cons.mp listed).2 uses (by rwa [options_takeOperands])
  | case10 given argument operands unclustered => exact Except.ok.inj uses ▸ before
  | case11 given argument kind rest unclustered operands known more =>
    exact Except.ok.inj uses ▸ before

/-- All that arguments give is on offer. -/
theorem offers_of_read {arguments : List String} {given : Given κ}
    (reads : grammar.read arguments = .ok given) : ∀ entry ∈ given.options, grammar.Offers entry := by
  obtain ⟨classified, classifies, uses⟩ := exists_of_read reads
  refine offers_of_use ?_ uses (List.forall_mem_nil _)
  clear uses reads
  induction arguments generalizing classified with
  | nil => exact Except.ok.inj classifies ▸ List.forall_mem_nil _
  | cons argument rest ih =>
    by_cases dashes : argument = "--"
    · rw [classifyAll, if_pos dashes] at classifies
      obtain rfl := Except.ok.inj classifies
      simp [ArgumentClass.spec?]
    · obtain ⟨kind, others, first, later, rfl⟩ := exists_of_classifyAll_cons dashes classifies
      exact List.forall_mem_cons.mpr
        ⟨fun spec found => (names_of_classify first.classified found).2.mem_options found, ih _ later⟩

theorem Spells.offers {words : List String} {given : List (κ × Option String)}
    (spelled : grammar.Spells words given) : ∀ entry ∈ given, grammar.Offers entry := by
  have reads : grammar.read words = .ok (Given.after given {}) := by
    have whole := read_append spelled []
    rwa [List.append_nil] at whole
  simpa [Given.after] using offers_of_read reads

end Grammar

end MemberDocs.CommandLine
