import MemberDocs.Text.DigitTable
import MemberDocs.Text.Quoted

/-! # Grammars of command lines

What the arguments of a command mean. An argument that starts with a hyphen is an option, if an
option has the name, or if exactly one has a name that begins so; options of one letter can be
written together, and a value can follow its option directly. Numbers below zero, a hyphen alone and
whatever holds a space are no options, and two hyphens alone make operands of everything after them.
All arguments are classified before the first one is used.
-/

namespace MemberDocs.CommandLine

/-- What an option does. -/
inductive OptionKind where
  /-- Shows the help of the command, and nothing else is done. -/
  | help
  /-- Stands for itself. -/
  | flag
  /-- Takes a value. -/
  | value
deriving DecidableEq, Repr

/-- An option of a command; `key` tells the options of a program apart. -/
structure OptionSpec (κ : Type) where
  names : List String
  kind : OptionKind
  key : κ

/-- What a command takes besides options. -/
inductive Operands where
  | none
  /-- Operands without an option between them. -/
  | list
  /-- The name of a command, followed by all of its arguments. -/
  | command
deriving DecidableEq, Repr

/-- The options and the operands of a command. -/
structure Grammar (κ : Type) where
  options : List (OptionSpec κ)
  operands : Operands

/-- What can be wrong with arguments. -/
inductive ArgumentFault where
  | ambiguous (argument : String) (names : List String)
  | valueMissing (names : List String)
  | valueIgnored (names : List String) (value : String)
  | invalidChoice (name choice : String) (choices : List String)
  | missing (name : String)
  | unrecognized (arguments : List String)
deriving DecidableEq, Repr

def ArgumentFault.message : ArgumentFault → String
  | ambiguous argument names =>
    "ambiguous option: " ++ argument ++ " could match " ++ String.intercalate ", " names
  | valueMissing names =>
    "argument " ++ String.intercalate "/" names ++ ": expected one argument"
  | valueIgnored names value =>
    "argument " ++ String.intercalate "/" names ++ ": ignored explicit argument " ++
      Text.quoted value
  | invalidChoice name choice choices =>
    "argument " ++ name ++ ": invalid choice: " ++ Text.quoted choice ++ " (choose from " ++
      String.intercalate ", " (choices.map Text.quoted) ++ ")"
  | missing name => "the following arguments are required: " ++ name
  | unrecognized arguments => "unrecognized arguments: " ++ String.intercalate " " arguments

/-- Why arguments are not used. -/
inductive Stop where
  | help
  | fault (fault : ArgumentFault)
deriving DecidableEq, Repr

/-- What an argument is. -/
inductive ArgumentClass (κ : Type) where
  | operand
  /-- Two hyphens alone. -/
  | dashes
  /-- The name of an option, maybe with an equals sign and a value. -/
  | option (spec : OptionSpec κ) (value : Option (List Char))
  /-- An option of one letter, and what follows the letter. -/
  | letter (spec : OptionSpec κ) (rest : List Char)
  /-- An option that the command does not have. -/
  | unknown

/-- A classified argument. -/
abbrev Classified (κ : Type) := String × ArgumentClass κ

/-- The text up to the first equals sign, and what follows the sign if there is one. -/
def splitEquals : List Char → List Char × Option (List Char)
  | [] => ([], none)
  | c :: rest =>
    if c = '=' then ([], some rest)
    else
      let (name, value) := splitEquals rest
      (c :: name, value)

/-- At least one decimal digit, of any script, and nothing else. -/
def isDigits (cs : List Char) : Bool :=
  !cs.isEmpty && cs.all fun c => (Text.digitValue? c).isSome

/-- A number below zero: a hyphen and digits, maybe with a point before the last of them. A line feed
at the end does not count. -/
def isNegativeNumber (cs : List Char) : Bool :=
  match if cs.getLast? = some '\n' then cs.dropLast else cs with
  | '-' :: number =>
    let fraction := number.dropWhile (· ≠ '.')
    isDigits number ||
      ((number.takeWhile (· ≠ '.')).all (fun c => (Text.digitValue? c).isSome) &&
        isDigits (fraction.drop 1))
  | _ => false

namespace Grammar

variable {κ : Type}

/-- The names of the options, each with its option. -/
def optionNames (grammar : Grammar κ) : List (String × OptionSpec κ) :=
  grammar.options.flatMap fun spec => spec.names.map fun name => (name, spec)

/-- The option with a name. -/
def option? (grammar : Grammar κ) (name : String) : Option (OptionSpec κ) :=
  grammar.optionNames.lookup name

/-- What an argument can mean whose text is no name of an option: with two hyphens, an option whose
name begins so; with one, the option of the first letter, or an option whose name begins so. Each
comes with the name. -/
def candidates (grammar : Grammar κ) (argument : List Char) : List (String × ArgumentClass κ) :=
  match argument with
  | '-' :: '-' :: _ =>
    let (leading, value) := splitEquals argument
    let named := grammar.optionNames.filter fun entry => leading.isPrefixOf entry.1.toList
    named.map fun entry => (entry.1, .option entry.2 value)
  | '-' :: letter :: rest =>
    grammar.optionNames.filterMap fun entry =>
      if entry.1.toList = ['-', letter] then some (entry.1, .letter entry.2 rest)
      else if argument.isPrefixOf entry.1.toList then some (entry.1, .option entry.2 none)
      else none
  | _ => []

/-- What an argument is that looks like an option but has no option's name. -/
def classifyOther (grammar : Grammar κ) (argument : String) :
    Except ArgumentFault (ArgumentClass κ) :=
  match grammar.candidates argument.toList with
  | [(_, only)] => .ok only
  | [] =>
    if isNegativeNumber argument.toList || argument.toList.contains ' ' then .ok .operand
    else .ok .unknown
  | several => .error (.ambiguous argument (several.map (·.1)))

/-- What an argument is that is not two hyphens alone. -/
def classify (grammar : Grammar κ) (argument : String) :
    Except ArgumentFault (ArgumentClass κ) :=
  match argument.toList with
  | [] | ['-'] => .ok .operand
  | '-' :: _ =>
    match grammar.option? argument, splitEquals argument.toList with
    | some spec, _ => .ok (.option spec none)
    | none, (name, some value) =>
      match grammar.option? (String.ofList name) with
      | some spec => .ok (.option spec (some value))
      | none => grammar.classifyOther argument
    | none, (_, none) => grammar.classifyOther argument
  | _ => .ok .operand

/-- Classifies arguments. -/
def classifyAll (grammar : Grammar κ) : List String →
    Except ArgumentFault (List (Classified κ))
  | [] => .ok []
  | argument :: rest =>
    if argument = "--" then .ok ((argument, .dashes) :: rest.map fun operand => (operand, .operand))
    else do
      let kind ← grammar.classify argument
      let others ← grammar.classifyAll rest
      .ok ((argument, kind) :: others)

/-- The options that one argument stands for. -/
structure Cluster (κ : Type) where
  /-- The options without a value, and the last one with the value that is written with it. -/
  given : List (OptionSpec κ × Option String)
  /-- The option at the end whose value has to be the next argument. -/
  wanting : Option (OptionSpec κ) := none
  /-- Letters that are no options. -/
  leftover : Option String := none

def Cluster.cons (spec : OptionSpec κ) (cluster : Cluster κ) : Cluster κ :=
  { cluster with given := (spec, none) :: cluster.given }

/-- An option with the value that follows an equals sign. -/
def withValue (spec : OptionSpec κ) (value : List Char) : Except ArgumentFault (Cluster κ) :=
  match spec.kind with
  | .value => .ok { given := [(spec, some (String.ofList value))] }
  | _ => .error (.valueIgnored spec.names (String.ofList value))

/-- An option that nothing follows in its argument. -/
def alone (spec : OptionSpec κ) : Cluster κ :=
  match spec.kind with
  | .value => { given := [], wanting := some spec }
  | _ => { given := [(spec, none)] }

/-- The options of one argument from the option `spec` on, whose letter the characters follow. -/
def takeLetters (grammar : Grammar κ) (spec : OptionSpec κ) :
    List Char → Except ArgumentFault (Cluster κ)
  | [] => .ok (alone spec)
  | '=' :: value => withValue spec value
  | letter :: rest =>
    if spec.kind = .value || letter = '-' then withValue spec (letter :: rest)
    else
      match grammar.option? (String.ofList ['-', letter]) with
      | some next => (grammar.takeLetters next rest).map (.cons spec)
      | none =>
        .ok { given := [(spec, none)], leftover := some (String.ofList ('-' :: letter :: rest)) }

/-- The options that a classified argument stands for, unless it is none. -/
def cluster? (grammar : Grammar κ) :
    ArgumentClass κ → Option (Except ArgumentFault (Cluster κ))
  | .option spec none => some (.ok (alone spec))
  | .option spec (some value) => some (withValue spec value)
  | .letter spec rest => some (grammar.takeLetters spec rest)
  | _ => none

end Grammar

/-- What arguments give: options in their order, with their values, and operands. -/
structure Given (κ : Type) where
  options : List (κ × Option String) := []
  /-- The operands, once there are any. -/
  operands : Option (List String) := none
  /-- Operands that follow these are operands too. -/
  isOpen : Bool := false
  /-- Arguments that the command cannot use. -/
  extras : List String := []

namespace Given

variable {κ : Type}

def take (given : Given κ) (options : List (OptionSpec κ × Option String)) :
    Except Stop (Given κ) :=
  if options.any (·.1.kind = .help) then .error .help
  else
    .ok { given with
      options := given.options ++ options.map fun entry => (entry.1.key, entry.2)
      isOpen := false }

/-- Takes an argument that the command cannot use. -/
def leave (given : Given κ) (argument : String) : Given κ :=
  { given with extras := given.extras ++ [argument] }

/-- Takes operands of a list: only operands without an option between them are one list. -/
def takeOperands (given : Given κ) (operands : List String) (argument : String) : Given κ :=
  match given.operands with
  | none => { given with operands := some operands, isOpen := true }
  | some taken =>
    if given.isOpen then { given with operands := some (taken ++ operands) }
    else given.leave argument

/-- Uses classified arguments in order. Once a command is named, all the rest is its own. -/
def use (grammar : Grammar κ) (given : Given κ) : List (Classified κ) → Except Stop (Given κ)
  | [] => .ok given
  | (argument, kind) :: rest =>
    match grammar.cluster? kind with
    | some (.error fault) => .error (.fault fault)
    | some (.ok cluster) =>
      let given := (cluster.leftover.map given.leave).getD given
      match cluster.wanting with
      | none => do use grammar (← given.take cluster.given) rest
      | some wanting =>
        match rest with
        | (value, .operand) :: rest => do
          use grammar (← given.take (cluster.given ++ [(wanting, some value)])) rest
        | _ => .error (.fault (.valueMissing wanting.names))
    | none =>
      match kind, grammar.operands, rest with
      | .unknown, _, _ => use grammar ({ given with isOpen := false }.leave argument) rest
      | _, .none, _ => use grammar (given.leave argument) rest
      | .dashes, .list, _ => use grammar (given.takeOperands [] argument) rest
      | _, .list, _ => use grammar (given.takeOperands [argument] argument) rest
      | .dashes, .command, [] => .ok (given.leave argument)
      | _, .command, _ => .ok { given with operands := some (argument :: rest.map (·.1)) }

end Given

/-- What arguments mean under a grammar. -/
def Grammar.read {κ : Type} (grammar : Grammar κ) (arguments : List String) :
    Except Stop (Given κ) := do
  let classified ← (grammar.classifyAll arguments).mapError .fault
  Given.use grammar {} classified

end MemberDocs.CommandLine
