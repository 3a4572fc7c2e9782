import OrderedLexer.Disk.Selection
import OrderedLexer.RuleFile.Plain.Reader
import OrderedLexer.RuleFile.Reader

/-!
# Loading rule files

* `Reading` is what comes of reading a rule file: the rules that were inserted, one after the other,
  and the rule set or the error.
* `Reading.ofPlain` and `Reading.ofJson` read the two formats.
* `RuleSet.load` selects a rule file on a disk and reads it.
-/

namespace OrderedLexer

/-- Why a rule set cannot be loaded. -/
inductive LoadError where
  | plain (cause : RuleFile.Plain.Cause) (location : Location)
  | json (path : String) (fault : Json.Fault)
  | invalidOrder (e : InvalidOrder)
  | unrecognisedExtension (extension path : String)
  /-- There is no rule file for a path without extension. -/
  | noRuleFile (path : String)
  | unreadable (path : String) (fault : Disk.Fault)
deriving DecidableEq

namespace LoadError

/-- What lies behind an error and is told again on its own. -/
def cause? : LoadError → Option String
  | .json _ fault => some fault.message
  | .noRuleFile _ => some "entity not found"
  | .unreadable _ fault => some fault.message
  | _ => none

def message : LoadError → String
  | .plain cause location => s!"syntax error in rule file, {location.display}\n{cause.message}"
  | .json path fault => s!"malformed JSON rule file {path}\n{fault.message}"
  | .invalidOrder e => e.message
  | .unrecognisedExtension extension path =>
    s!"unrecognised extension {extension} for rule file {path}"
  | .noRuleFile path => s!"{path}: entity not found"
  | .unreadable path fault => s!"{path}: {fault.message}"

/-- The order that was refused, if that is the error. -/
def refusal? : LoadError → Option InvalidOrder
  | .plain (.invalidOrder e) _ => some e
  | .invalidOrder e => some e
  | _ => none

end LoadError

namespace RuleFile

/-- What comes of reading a rule file. -/
structure Reading where
  /-- The rules inserted, with their orders, in the order of their insertion. -/
  inserted : List (OrderKey × Rule)
  result : Except LoadError RuleSet

namespace Reading

/-- Read a plain rule file. -/
def ofPlain (source : Cursor) : Reading :=
  let (draft, fault?) := Plain.read source
  { inserted := draft.inserted.reverse
    result := match fault? with
      | none => .ok draft.set
      | some fault => .error (.plain fault.cause (source.lineIndex.span fault.start fault.stop)) }

/-- Read a rule file in JSON. -/
def ofJson (source : Cursor) : Reading :=
  match RuleFile.ofJson? (String.ofList source.text) with
  | .error fault => ⟨[], .error (.json source.origin fault)⟩
  | .ok file =>
    { inserted := file.entries.takeWhile fun e => (RuleSet.refusal? file.start e.1).isNone
      result := file.toRuleSet?.mapError .invalidOrder }

end Reading

/-! ### Formats -/

/-- The formats of rule files. -/
inductive Format where
  | plain
  | json
deriving DecidableEq

/-- The extensions of rule files. -/
def Format.extensions : List (String × Format) := [("olx", .plain), ("json", .json)]

/-- Read a rule file of a format. -/
def Format.read : Format → Cursor → Reading
  | .plain => Reading.ofPlain
  | .json => Reading.ofJson

/-- The rule file for a path: where it lies, and its format. -/
def locate (disk : Disk) (path : String) : Except LoadError (String × Format) :=
  match disk.select path Format.extensions with
  | .valid path format => .ok (path, format)
  | .wrongExtension extension => .error (.unrecognisedExtension extension path)
  | .nonExisting => .error (.noRuleFile path)

end RuleFile

/-- The cursor at the start of a file. -/
def Cursor.ofFile (disk : Disk) (path : String) : Except LoadError Cursor :=
  match disk.readText? path with
  | .ok text => .ok (Cursor.ofText path text)
  | .error fault => .error (.unreadable path fault)

namespace RuleSet

/-- The rule set of a plain rule file. -/
def ofPlain (source : Cursor) : Except LoadError RuleSet := (RuleFile.Reading.ofPlain source).result

/-- The rule set of a rule file in JSON. -/
def ofJson (source : Cursor) : Except LoadError RuleSet := (RuleFile.Reading.ofJson source).result

/-- The rule set of the rule file for a path. -/
def load (disk : Disk) (path : String) : Except LoadError RuleSet := do
  let (path, format) ← RuleFile.locate disk path
  (format.read (← Cursor.ofFile disk path)).result

end RuleSet
end OrderedLexer
