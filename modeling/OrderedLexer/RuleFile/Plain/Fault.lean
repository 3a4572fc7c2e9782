import OrderedLexer.RuleSet.Basic

/-!
# Why a plain rule file is refused

A `Plain.Fault` is a cause with the byte positions between which it lies.
-/

namespace OrderedLexer.RuleFile.Plain

/-- Why a plain rule file is refused. -/
inductive Cause where
  | expectedIdentifier
  | expectedDefinition
  | expectedPattern
  | expectedInteger
  | expectedLineEnd
  | ignoreTwice
  | priorityTwice
  | unknownPriority (word : String)
  | startAfterRule
  | unknownDirective (word : String)
  | invalidPattern (e : InvalidPattern)
  | invalidOrder (e : InvalidOrder)
deriving DecidableEq

def Cause.message : Cause → String
  | .expectedIdentifier => "expected an identifier"
  | .expectedDefinition => "expected `::=`"
  | .expectedPattern => "expected a pattern"
  | .expectedInteger => "expected an integer"
  | .expectedLineEnd => "expected end of line"
  | .ignoreTwice => "`ignore` given twice"
  | .priorityTwice => "priority given twice"
  | .unknownPriority word => Priority.unknownMessage word
  | .startAfterRule => "`@start` must come before any rule"
  | .unknownDirective word => s!"unknown directive `@{word}`"
  | .invalidPattern e => e.message
  | .invalidOrder e => e.message

/-- A cause with the byte positions where what it is about starts and stops. -/
structure Fault where
  cause : Cause
  start : Nat
  stop : Nat
deriving DecidableEq

end OrderedLexer.RuleFile.Plain
