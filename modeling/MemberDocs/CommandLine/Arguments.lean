import MemberDocs.CommandLine.Grammar

/-! # Arguments of the program

The two commands of the program and what each is told. The options of the log can stand before the
command and after it; what stands after it counts.
-/

namespace MemberDocs.CommandLine

/-- The commands of the program. -/
inductive Command where
  | convert
  | generate
deriving DecidableEq, Repr

def Command.name : Command → String
  | convert => "convert"
  | generate => "generate"

/-- The commands in the order in which they are offered. -/
def Command.all : List Command := [convert, generate]

def Command.ofName? (name : String) : Option Command :=
  Command.all.find? (·.name = name)

/-- Whose arguments are read. -/
inductive Scope where
  | program
  | command (command : Command)
deriving DecidableEq, Repr

/-- The options of the program and its commands. -/
inductive OptionKey where
  | help
  | verbose
  | logFile
  | inputFile
  | fromConsole
  | outputFile
  | toConsole
  | documentation
  | merge
  | output
  | warn
  | config
deriving DecidableEq, Repr

/-- The options that the program and its commands have in common. -/
def commonOptions : List (OptionSpec OptionKey) :=
  [⟨["-h", "--help"], .help, .help⟩,
    ⟨["-v", "--verbose"], .flag, .verbose⟩,
    ⟨["--log-file"], .value, .logFile⟩]

/-- The options of a command. -/
def Command.options : Command → List (OptionSpec OptionKey)
  | convert =>
    [⟨["-i", "--inputfile"], .value, .inputFile⟩,
      ⟨["--cin"], .flag, .fromConsole⟩,
      ⟨["-o", "--outputfile"], .value, .outputFile⟩,
      ⟨["--cout"], .flag, .toConsole⟩]
  | generate =>
    [⟨["-d", "--documentation-path"], .value, .documentation⟩,
      ⟨["--merge"], .flag, .merge⟩,
      ⟨["-o", "--output"], .value, .output⟩,
      ⟨["--warn-on-unexpected-tag"], .flag, .warn⟩,
      ⟨["--config"], .value, .config⟩]

def Command.operands : Command → Operands
  | convert => .none
  | generate => .list

/-- The grammar of the arguments in a scope. -/
def Scope.grammar : Scope → Grammar OptionKey
  | program => ⟨commonOptions, .command⟩
  | command c => ⟨commonOptions ++ c.options, c.operands⟩

/-- Where a conversion gets its document or puts its Markdown. -/
inductive Stream where
  | console
  | file (path : String)
deriving DecidableEq, Repr

/-- What the command for one document is told. -/
structure ConvertArguments where
  inputFile : Option String := none
  fromConsole : Bool := false
  outputFile : Option String := none
  toConsole : Bool := false
deriving DecidableEq, Repr

/-- Where the document comes from, if that is said. The console comes before a file. -/
def ConvertArguments.source? (arguments : ConvertArguments) : Option Stream :=
  if arguments.fromConsole then some .console else arguments.inputFile.map .file

/-- Where the Markdown goes, if that is said. The console comes before a file. -/
def ConvertArguments.sink? (arguments : ConvertArguments) : Option Stream :=
  if arguments.toConsole then some .console else arguments.outputFile.map .file

/-- What the command for several documents is told. -/
structure GenerateArguments where
  inputs : List String := []
  documentation : Option String := none
  merges : Bool := false
  output : Option String := none
  warns : Bool := false
  /-- The configuration file or the directory that holds it. -/
  config : String := "."
deriving DecidableEq, Repr

/-- A command with what it is told. -/
inductive Request where
  | convert (arguments : ConvertArguments)
  | generate (arguments : GenerateArguments)
deriving DecidableEq, Repr

/-- What all arguments of the program say. -/
structure Invocation where
  verbose : Bool := false
  logFile : Option String := none
  request : Request
deriving DecidableEq, Repr

/-- Arguments that are not used, and whose they are. -/
structure Refusal where
  scope : Scope
  stop : Stop
deriving DecidableEq, Repr

namespace Given

variable {κ : Type} [DecidableEq κ]

/-- An option is there. -/
def has (given : Given κ) (key : κ) : Bool :=
  given.options.any (·.1 = key)

/-- The last value of an option. -/
def value? (given : Given κ) (key : κ) : Option String :=
  (given.options.reverse.lookup key).join

end Given

/-- The request that the arguments of a command make. -/
def Command.request (command : Command) (given : Given OptionKey) : Request :=
  match command with
  | convert =>
    .convert
      { inputFile := given.value? .inputFile
        fromConsole := given.has .fromConsole
        outputFile := given.value? .outputFile
        toConsole := given.has .toConsole }
  | generate =>
    .generate
      { inputs := given.operands.getD []
        documentation := given.value? .documentation
        merges := given.has .merge
        output := given.value? .output
        warns := given.has .warn
        config := (given.value? .config).getD "." }

/-- The arguments in a scope. -/
def Scope.read (scope : Scope) (arguments : List String) : Except Refusal (Given OptionKey) :=
  (scope.grammar.read arguments).mapError fun stop => ⟨scope, stop⟩

/-- What the arguments of a command say, after those of the program. -/
def Invocation.ofGiven (command : Command) (outer inner : Given OptionKey) :
    Except Refusal Invocation :=
  match outer.extras ++ inner.extras with
  | [] =>
    .ok
      { verbose := outer.has .verbose || inner.has .verbose
        logFile := (inner.value? .logFile).or (outer.value? .logFile)
        request := command.request inner }
  | extras => .error ⟨.program, .fault (.unrecognized extras)⟩

def Invocation.ofArguments (arguments : List String) : Except Refusal Invocation := do
  let outer ← Scope.program.read arguments
  match outer.operands.getD [] with
  | [] => .error ⟨.program, .fault (.missing "command")⟩
  | name :: rest =>
    match Command.ofName? name with
    | none =>
      .error ⟨.program, .fault (.invalidChoice "command" name (Command.all.map (·.name)))⟩
    | some command => do
      let inner ← (Scope.command command).read rest
      Invocation.ofGiven command outer inner

end MemberDocs.CommandLine
