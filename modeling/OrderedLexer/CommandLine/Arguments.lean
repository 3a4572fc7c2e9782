/-!
# The arguments of the command line

`Request.ofArguments` reads the arguments. Flags may stand before and after operands, and short ones
may be joined; after `--` all arguments are operands. The first `--version` or `--help` that is
reached is answered at once, whatever follows.
-/

namespace OrderedLexer.CommandLine

/-- How rules are shown. -/
inductive View where
  | summary
  | full
  | json
deriving DecidableEq

/-- What to do. -/
inductive Command where
  /-- Show the tokens of a source; without a path, of the standard input. -/
  | lex (json : Bool) (rules : String) (source : Option String)
  /-- Show rules. -/
  | rules (view : View) (rules : String)
deriving DecidableEq

/-- What the arguments ask for. -/
inductive Request where
  | run (verbosity : Nat) (command : Command)
  | version (program : String)
  | help
  /-- The arguments are not understood. -/
  | misuse
deriving DecidableEq

/-- The name of a command. -/
inductive Action where
  | lex
  | rules
deriving DecidableEq

namespace Action

def name : Action → String
  | .lex => "lex"
  | .rules => "rules"

def ofName? (name : String) : Option Action := [Action.lex, Action.rules].find? (·.name = name)

/-- The name and version of the program or of one of its commands. -/
def version (action : Option Action) : String :=
  match action with
  | none => "ordlex 0.1.0"
  | some action => s!"ordlex-{action.name} 0.1.0"

end Action

/-- The flags. -/
inductive Flag where
  | verbose
  | json
  | full
  | version
  | help
deriving DecidableEq

namespace Flag

/-- The flag with a long name, before a command or among the arguments of one. -/
def ofName? (action : Option Action) (name : String) : Option Flag :=
  match name, action with
  | "verbose", _ => some .verbose
  | "version", _ => some .version
  | "help", _ => some .help
  | "json", some _ => some .json
  | "full", some .rules => some .full
  | _, _ => none

/-- The flag with a short name. -/
def ofLetter? (action : Option Action) (letter : Char) : Option Flag :=
  match letter, action with
  | 'v', _ => some .verbose
  | 'V', _ => some .version
  | 'h', _ => some .help
  | 'f', some .rules => some .full
  | _, _ => none

end Flag

/-- The arguments of a command, or those before it. -/
structure Given where
  verbosity : Nat := 0
  json : Bool := false
  full : Bool := false
  operands : List String := []

namespace Given

/-- Take up a flag. Only `--verbose` may be repeated. -/
def addFlag (action : Option Action) (given : Given) : Flag → Except Request Given
  | .verbose => .ok { given with verbosity := given.verbosity + 1 }
  | .json => if given.json then .error .misuse else .ok { given with json := true }
  | .full => if given.full then .error .misuse else .ok { given with full := true }
  | .version => .error (.version (Action.version action))
  | .help => .error .help

/-- Take up a flag that may not exist. -/
def addFlag? (action : Option Action) (given : Given) (flag? : Option Flag) :
    Except Request Given :=
  match flag? with
  | some flag => given.addFlag action flag
  | none => .error .misuse

/-- Take up an argument that starts with a minus and is longer than it. -/
def addFlags (action : Option Action) (given : Given) (argument : List Char) :
    Except Request Given :=
  match argument with
  | '-' :: '-' :: name => given.addFlag? action (Flag.ofName? action (String.ofList name))
  | _ =>
    (argument.drop 1).foldlM (fun given c => given.addFlag? action (Flag.ofLetter? action c)) given

/-- The number of operands of a command. -/
def maxOperands : Action → Nat
  | .lex => 2
  | .rules => 1

/-- Take up an operand, which must not be empty. -/
def addOperand (action : Action) (given : Given) (operand : String) : Except Request Given :=
  if operand.isEmpty || maxOperands action ≤ given.operands.length then .error .misuse
  else .ok { given with operands := given.operands ++ [operand] }

/-- Whether an argument is a flag or several. -/
def isFlags (argument : String) : Bool := argument.startsWith "-" && argument != "-"

/-- Take up the arguments of a command. -/
def addArguments (action : Action) (given : Given) : List String → Except Request Given
  | [] => .ok given
  | "--" :: operands => operands.foldlM (addOperand action) given
  | argument :: arguments => do
    let given ←
      if isFlags argument then given.addFlags (some action) argument.toList
      else given.addOperand action argument
    addArguments action given arguments

/-- The command with the arguments given. -/
def command? (action : Action) (given : Given) : Option Command :=
  match action, given.operands with
  | .lex, rules :: source => some (.lex given.json rules source.head?)
  | .rules, rules :: _ =>
    if given.json && given.full then none
    else some (.rules (if given.json then .json else if given.full then .full else .summary) rules)
  | _, [] => none

end Given

namespace Request

/-- The request for a command. A verbosity told after the command counts more than one before it. -/
def ofCommand (before : Given) (action : Action) (arguments : List String) :
    Except Request Request := do
  let given ← Given.addArguments action {} arguments
  match given.command? action with
  | some command =>
    .ok (.run (if given.verbosity = 0 then before.verbosity else given.verbosity) command)
  | none => .error .misuse

/-- The request with the given flags before further arguments. -/
def ofRest (before : Given) : List String → Except Request Request
  | [] => .error .misuse
  | argument :: arguments =>
    match Action.ofName? argument with
    | some action => ofCommand before action arguments
    | none =>
      if argument = "help" then .error .help
      else if argument != "--" && Given.isFlags argument then do
        ofRest (← before.addFlags none argument.toList) arguments
      else .error .misuse

/-- What the arguments ask for. -/
def ofArguments (arguments : List String) : Request :=
  match ofRest {} arguments with
  | .ok request => request
  | .error request => request

end Request
end OrderedLexer.CommandLine
