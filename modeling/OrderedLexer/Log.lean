import OrderedLexer.RuleFile.Load
import OrderedLexer.Scan.Tokens

/-!
# What is logged

An `Event` is what loading a rule file or scanning a text does on the way. `Event.line` is its line
in the log: level, target, what happens, and the fields.

* `RuleFile.loadEvents` are the events of loading a rule file from a disk.
* `Course.events` are the events of a scan.
-/

namespace OrderedLexer

/-- The levels of events. -/
inductive Level where
  | warn
  | debug
  | trace
deriving DecidableEq

namespace Level

def name : Level → String
  | .warn => "WARN"
  | .debug => "DEBUG"
  | .trace => "TRACE"

/-- The verbosity from which events of a level are logged. -/
def verbosity : Level → Nat
  | .warn => 1
  | .debug => 1
  | .trace => 2

end Level

/-- What happens on the way. -/
inductive Event where
  | loading (format : RuleFile.Format) (path : String)
  | inserting (order : OrderKey) (rule : Rule)
  | rejected (e : InvalidOrder)
  | plainFileRead (origin : String) (rules : Nat)
  | scanStarted (origin : String) (rules length : Nat)
  | matched (token : Token)
  | noMatch (offset : Nat) (window : String)
  | emptyMatch (offset : Nat) (rule : Rule)
  | scanFinished (tokens : Nat)
deriving DecidableEq

namespace Event

def level : Event → Level
  | .rejected _ | .noMatch _ _ | .emptyMatch _ _ => .warn
  | .matched _ => .trace
  | _ => .debug

/-- The part of the program where an event happens. -/
def target : Event → String
  | .loading _ _ => "ordlex::builder"
  | .inserting _ _ | .rejected _ => "ordlex::lexer::ruleset"
  | .plainFileRead _ _ => "ordlex::grammarparser"
  | _ => "ordlex::lexer::engine"

def message : Event → String
  | .loading .plain _ => "loading plain rule file"
  | .loading .json _ => "loading JSON rule file"
  | .inserting _ _ => "inserting rule"
  | .rejected _ => "rule rejected below the order floor"
  | .plainFileRead _ _ => "read plain rule file"
  | .scanStarted _ _ _ => "scan started"
  | .matched _ => "matched"
  | .noMatch _ _ => "no rule matches"
  | .emptyMatch _ _ => "rule matched the empty string"
  | .scanFinished _ => "scan finished"

/-- The fields of an event with their values. -/
def fields : Event → List (String × String)
  | .loading _ path => [("path", path)]
  | .inserting order rule => [("order", order.display), ("rule", rule.display)]
  | .rejected e => [("order", e.order.display), ("floor", e.floor.display)]
  | .plainFileRead origin rules => [("origin", origin), ("rules", toString rules)]
  | .scanStarted origin rules length =>
    [("origin", origin), ("rules", toString rules), ("length", toString length)]
  | .matched t =>
    [("offset", toString t.offset), ("rule", t.rule.display), ("text", Text.quoteString t.text)]
  | .noMatch offset window => [("offset", toString offset), ("window", window)]
  | .emptyMatch offset rule => [("offset", toString offset), ("rule", rule.display)]
  | .scanFinished tokens => [("tokens", toString tokens)]

/-- The line of an event in the log. -/
def line (e : Event) : String :=
  let fields := e.fields.map fun (name, value) => " " ++ name ++ "=" ++ value
  s!"{e.level.name} {e.target}: {e.message}" ++ String.join fields ++ "\n"

/-- The log of some events at a verbosity. -/
def log (verbosity : Nat) (events : List Event) : String :=
  String.join ((events.filter (·.level.verbosity ≤ verbosity)).map line)

end Event

/-! ### Events of loading -/

namespace RuleFile

/-- The events of reading a rule file. -/
def Reading.events (reading : Reading) (format : Format) (origin : String) : List Event :=
  reading.inserted.map (fun (order, rule) => .inserting order rule) ++
    match reading.result, format with
    | .error e, _ => e.refusal?.toList.map .rejected
    | .ok set, .plain => [.plainFileRead origin set.size]
    | .ok _, .json => []

/-- The events of loading the rule file for a path. -/
def loadEvents (disk : Disk) (path : String) : List Event :=
  match locate disk path with
  | .error _ => []
  | .ok (path, format) =>
    .loading format path :: match Cursor.ofFile disk path with
      | .ok source => (format.read source).events format source.origin
      | .error _ => []

end RuleFile

/-! ### Events of a scan -/

/-- The event with which a scan halts. -/
def Course.lastEvent (c : Course) : Event :=
  match c.halt with
  | .finished => .scanFinished c.kept.length
  | .noMatch => .noMatch c.offset (c.window Course.windowSize)
  | .emptyMatch rule => .emptyMatch c.offset rule

/-- The events of scanning a text. -/
def RuleSet.scanEvents (set : RuleSet) (origin text : String) : List Event :=
  let course := set.course text.toList
  .scanStarted origin set.size text.utf8ByteSize ::
    course.found.map .matched ++ [course.lastEvent]

end OrderedLexer
