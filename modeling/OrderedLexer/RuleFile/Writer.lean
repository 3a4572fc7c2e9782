import OrderedLexer.Json.Value
import OrderedLexer.RuleFile.Basic

/-!
# Writing rule files in JSON

Records are written as objects, with all fields but those that are absent: a start and a name.
-/

namespace OrderedLexer

open Json (Value)

/-- A rule as JSON. -/
def Rule.toJson (r : Rule) : Value :=
  let name := r.name.toList.map fun name => ("name", Value.string name)
  .object ([("pattern", .string r.pattern), ("priority", .string r.priority.name),
    ("capture", .boolean r.captures)] ++ name)

namespace RuleFile

/-- A group of rules as JSON. -/
def Group.toJson (g : Group) : Value :=
  .object [("order", .integer g.order.val), ("rules", .list (g.rules.map Rule.toJson))]

/-- A rule file as JSON. -/
def toJson (file : RuleFile) : Value :=
  let start := file.start.toList.map fun start => ("start", Value.integer start.val)
  .object (start ++ [("orders", .list (file.groups.map Group.toJson))])

end RuleFile

/-- A rule set as the JSON text of a rule file. -/
def RuleSet.dump (set : RuleSet) (layout : Json.Layout) : String :=
  (RuleFile.ofRuleSet set).toJson.print layout

end OrderedLexer
