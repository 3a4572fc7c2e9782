import OrderedLexer.Json.Reader
import OrderedLexer.RuleFile.Basic

/-!
# Rule files in JSON

`RuleFile.ofJson?` reads a rule file, `Rule.ofJson?` a single rule. A record is an object, of which
unknown fields are skipped, or the list of its values in the order of declaration, of which those
with a default may be missing at the end. The pattern of a rule is compiled when its record has been
read.
-/

namespace OrderedLexer

open Json Json.Reader

namespace Priority

/-- Read the name of a priority. -/
def nameReader : Reader Priority := do
  let name ← string "variant identifier"
  match ofName? name with
  | some priority => return priority
  | none => throw (.unknownVariant name)

/-- Read a priority: its name, or an object with the name as its only key and the value `null`. -/
def reader : Reader Priority := do
  match ← upcoming .unfinishedValue with
  | '"' => nameReader
  | '\x7b' =>
    advance
    let priority ← nameReader
    colon
    null
    if (← upcoming .unfinishedObject) != '\x7d' then throw .expectedValue
    advance
    return priority
  | _ => throw .expectedValue

end Priority

namespace Rule

/-- A rule as it is told, not yet compiled. -/
structure Definition where
  pattern : String
  priority : Priority := .natural
  captures : Bool := true
  name : Option String := none
deriving DecidableEq

def Definition.compile (d : Definition) : Except InvalidPattern Rule :=
  Rule.ofPattern d.pattern d.priority d.captures d.name

/-- The fields of a rule that have been read. -/
structure Fields where
  pattern : Option String := none
  priority : Option Priority := none
  captures : Option Bool := none
  name : Option (Option String) := none

namespace Fields

/-- Read the field under a key. -/
def read (key : String) (fields : Fields) : Reader Fields := do
  match key with
  | "pattern" => return { fields with pattern := ← once key fields.pattern string }
  | "priority" => return { fields with priority := ← once key fields.priority Priority.reader }
  | "capture" => return { fields with captures := ← once key fields.captures boolean }
  | "name" => return { fields with name := ← once key fields.name (optional string) }
  | _ =>
    colon
    skipValue
    return fields

/-- Take the fields together, with the defaults for those that are missing. -/
def complete (fields : Fields) : Reader Definition := do
  let some pattern := fields.pattern | throw (.missingField "pattern")
  return ⟨pattern, fields.priority.getD .natural, fields.captures.getD true,
    fields.name.getD none⟩

/-- Read the fields from a list. -/
def readList : Reader Definition := do
  let some pattern ← element? 0 string
    | throw (.invalidLength 0 "struct RuleDefinition with 4 elements")
  let priority ← element? 1 Priority.reader
  let captures ← element? 2 boolean
  let name ← element? 3 (optional string)
  return ⟨pattern, priority.getD .natural, captures.getD true, name.getD none⟩

end Fields

/-- Read a rule and compile it. -/
def reader : Reader Rule := do
  let d ← record "struct RuleDefinition" {} Fields.read Fields.complete Fields.readList
  match d.compile with
  | .ok rule => return rule
  | .error e => throw (.invalidPattern e)

/-- The rule that a JSON text tells. -/
def ofJson? (text : String) : Except Fault Rule := whole reader text.toList

end Rule

namespace RuleFile

/-- Read the field of a group under a key. -/
def Group.readField (key : String) (fields : Option OrderKey × Option (List Rule)) :
    Reader (Option OrderKey × Option (List Rule)) := do
  match key with
  | "order" => return (← once key fields.1 orderKey, fields.2)
  | "rules" => return (fields.1, ← once key fields.2 (list Rule.reader))
  | _ =>
    colon
    skipValue
    return fields

/-- The group with the given fields. -/
def Group.ofFields : Option OrderKey × Option (List Rule) → Reader Group
  | (some order, some rules) => return ⟨order, rules⟩
  | (none, _) => throw (.missingField "order")
  | (some _, none) => throw (.missingField "rules")

/-- Read the fields of a group from a list. -/
def Group.readList : Reader Group := do
  let expected := "struct OrderSchema with 2 elements"
  let some order ← element? 0 orderKey | throw (.invalidLength 0 expected)
  let some rules ← element? 1 (list Rule.reader) | throw (.invalidLength 1 expected)
  return ⟨order, rules⟩

/-- Read a group. -/
def Group.reader : Reader Group :=
  record "struct OrderSchema" (none, none) Group.readField Group.ofFields Group.readList

/-- Read the field of a rule file under a key. -/
def readField (key : String) (fields : Option (Option OrderKey) × Option (List Group)) :
    Reader (Option (Option OrderKey) × Option (List Group)) := do
  match key with
  | "start" => return (← once key fields.1 (optional orderKey), fields.2)
  | "orders" => return (fields.1, ← once key fields.2 (list Group.reader))
  | _ =>
    colon
    skipValue
    return fields

/-- The rule file with the given fields; all may be missing. -/
def ofFields (fields : Option (Option OrderKey) × Option (List Group)) : RuleFile :=
  ⟨fields.1.getD none, fields.2.getD []⟩

/-- Read a rule file. -/
def reader : Reader RuleFile :=
  record "struct RuleFileSchema" (none, none) readField (fun fields => return ofFields fields) do
    let start ← element? 0 (optional orderKey)
    let groups ← element? 1 (list Group.reader)
    return ofFields (start, groups)

/-- The rule file that a JSON text tells. -/
def ofJson? (text : String) : Except Fault RuleFile := whole reader text.toList

end RuleFile
end OrderedLexer
