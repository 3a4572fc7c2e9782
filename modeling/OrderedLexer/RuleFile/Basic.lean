import OrderedLexer.RuleSet.Basic

/-!
# Rule files

A `RuleFile` lists rules group by group, each group under the key of an order. A key may come in
several groups.

* `RuleFile.toRuleSet?` inserts the rules as they are listed.
* `RuleFile.ofRuleSet` lists the rules of a rule set, one group for each order.
-/

namespace OrderedLexer

/-- Rules that are listed under the key of an order. -/
structure RuleFile.Group where
  order : OrderKey
  rules : List Rule
deriving DecidableEq

/-- The contents of a rule file. -/
structure RuleFile where
  /-- The floor of the rule set. -/
  start : Option OrderKey := none
  groups : List RuleFile.Group := []
deriving DecidableEq

namespace RuleFile

/-- The rules with their orders as they are listed. -/
def entries (file : RuleFile) : List (OrderKey × Rule) :=
  file.groups.flatMap fun g => g.rules.map (g.order, ·)

/-- The rule set of a rule file, or the first order that lies below its floor. -/
def toRuleSet? (file : RuleFile) : Except InvalidOrder RuleSet :=
  (RuleSet.start file.start).insertAll? file.entries

/-- The rule file that lists the orders of a rule set, the empty ones too. -/
def ofRuleSet (set : RuleSet) : RuleFile :=
  ⟨set.floor, set.orders.map fun o => ⟨o.1, o.2⟩⟩

end RuleFile
end OrderedLexer
