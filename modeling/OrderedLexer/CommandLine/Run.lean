import OrderedLexer.CommandLine.Arguments
import OrderedLexer.Log
import OrderedLexer.RuleFile.Writer

/-!
# Running commands

`Command.run` runs a command on a disk and a standard input; the `Outcome` is what it writes and the
exit status. A failure is told with the chain of its causes.
-/

namespace OrderedLexer.CommandLine

/-- What a command writes, and its exit status. -/
structure Outcome where
  status : Nat
  output : String
  errors : String
deriving DecidableEq

/-- A failure: what is told first, and the causes behind it, the nearest first. -/
structure Failure where
  message : String
  causes : List String := []

namespace Failure

/-- A text that is indented: `first` stands before its first line and `next` before the others. -/
def indent (first next text : String) : String :=
  first ++ ("\n" ++ next).intercalate (text.splitOn "\n")

/-- The causes with their numbers, from `n`. -/
def numbered (n : Nat) : List String → List String
  | [] => []
  | text :: texts =>
    let label := toString n
    let blanks := String.ofList (List.replicate (5 - label.length) ' ')
    indent (blanks ++ label ++ ": ") "       " text :: numbered (n + 1) texts

/-- A failure as it is told; several causes are numbered. -/
def report (f : Failure) : String :=
  let causes := match f.causes with
    | [] => []
    | [cause] => [indent "    " "    " cause]
    | causes => numbered 0 causes
  let told := if causes.isEmpty then [] else "" :: "Caused by:" :: causes
  "\n".intercalate (("Error: " ++ f.message) :: told) ++ "\n"

/-- The failure to load rules from a path. -/
def ofLoad (path : String) (e : LoadError) : Failure :=
  ⟨s!"cannot load rules from {path}", e.message :: e.cause?.toList⟩

/-- The failure to read a source. -/
def ofSource (e : LoadError) : Failure := ⟨e.message, e.cause?.toList⟩

/-- The failure to read the standard input. -/
def ofInput (fault : Disk.Fault) : Failure := ⟨"cannot read standard input", [fault.message]⟩

end Failure

/-! ### Output -/

/-- A token on a line: offset, label and text with escapes, between tabs. -/
def tokenLine (t : Token) : String :=
  s!"{t.offset}\t{t.rule.label}\t{Text.escapeString t.text}\n"

/-- The tokens as they are written. -/
def showTokens (json : Bool) (tokens : List Token) : String :=
  if json then (Json.Value.list (tokens.map Token.toJson)).print .indented ++ "\n"
  else String.join (tokens.map tokenLine)

/-- The rules of an order on a line. -/
def orderLine (o : OrderKey × List Rule) : String :=
  s!"{o.1.display}: " ++ " ".intercalate (o.2.map Rule.displayFull) ++ "\n"

/-- The rules as they are written. -/
def showRules (set : RuleSet) : View → String
  | .summary => set.display ++ "\n"
  | .full => String.join (set.orders.map orderLine)
  | .json => set.dump .indented ++ "\n"

/-! ### Commands -/

namespace Command

/-- The path of the rules. -/
def rulesPath : Command → String
  | .lex _ path _ => path
  | .rules _ path => path

/-- The source of a command to scan with, at the standard input if no path is given. -/
def source (disk : Disk) (input : ByteArray) (path : Option String) : Except Failure Cursor :=
  match path with
  | some path => (Cursor.ofFile disk path).mapError Failure.ofSource
  | none => ((Disk.decode? input).map (Cursor.ofText "<stdin>")).mapError Failure.ofInput

/-- Run a command with its rules: the events, and what is written. -/
def runWith (set : RuleSet) (disk : Disk) (input : ByteArray) :
    Command → List Event × Except Failure String
  | .lex json _ path =>
    match source disk input path with
    | .error failure => ([], .error failure)
    | .ok c =>
      let text := c.peek
      let tokens := (set.scan text c.origin).mapError fun e => ⟨e.message, []⟩
      (set.scanEvents c.origin text, tokens.map (showTokens json))
  | .rules view _ => ([], .ok (showRules set view))

/-- Run a command. -/
def run (verbosity : Nat) (command : Command) (disk : Disk) (input : ByteArray) : Outcome :=
  let loadEvents := RuleFile.loadEvents disk command.rulesPath
  let (events, result) := match RuleSet.load disk command.rulesPath with
    | .ok set => command.runWith set disk input
    | .error e => ([], .error (Failure.ofLoad command.rulesPath e))
  let log := Event.log verbosity (loadEvents ++ events)
  match result with
  | .ok output => ⟨0, output, log⟩
  | .error failure => ⟨1, "", log ++ failure.report⟩

/-- Whether a command reads the standard input. -/
def readsInput (command : Command) (disk : Disk) : Bool :=
  match command with
  | .lex _ path none => (RuleSet.load disk path).isOk
  | _ => false

/-- The paths that a command may open. -/
def paths (command : Command) : List String :=
  let candidates (path : String) : List String :=
    path :: RuleFile.Format.extensions.filterMap fun (extension, _) =>
      Disk.Path.withExtension? path extension
  match command with
  | .lex _ path source => candidates path ++ source.toList
  | .rules _ path => candidates path

end Command

/-- How the program is called. -/
def usage : String := "\n".intercalate [
  "Usage: ordlex [-v]... lex [--json] RULES [SOURCE]",
  "       ordlex [-v]... rules [--full | --json] RULES",
  "       ordlex --version", ""]

/-- What a request comes to. -/
def Request.outcome (request : Request) (disk : Disk) (input : ByteArray) : Outcome :=
  match request with
  | .run verbosity command => command.run verbosity disk input
  | .version program => ⟨0, program ++ "\n", ""⟩
  | .help => ⟨0, usage, ""⟩
  | .misuse => ⟨2, "", usage⟩

end OrderedLexer.CommandLine
