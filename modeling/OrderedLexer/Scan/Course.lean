import OrderedLexer.RuleSet.Basic

/-!
# Courses of scans

A scan cuts its text into the matches of the first rule that matches at each position. `Course`
tells what happened: the matches, whether kept or not, and how the scan halted.

* `RuleSet.nextMatch?` gives the first rule, as rules are tried, that matches at the start of a
  text.
* `RuleSet.course` runs from the start of a text to its end, to a position where no rule matches, or
  to an empty match, which would never get on.
-/

namespace OrderedLexer

/-- A match of a rule, at a byte offset. -/
structure Token where
  text : String
  rule : Rule
  offset : Nat
deriving DecidableEq

/-- How a scan halts. -/
inductive Halt where
  | finished
  | noMatch
  | emptyMatch (rule : Rule)
deriving DecidableEq

/-- What happens in a scan. -/
structure Course where
  /-- The matches, kept or not. -/
  found : List Token
  halt : Halt
  /-- The byte offset at which the scan halts. -/
  offset : Nat
  /-- The text ahead when the scan halts. -/
  rest : List Char
deriving DecidableEq

/-- The matches that are kept. -/
def Course.kept (c : Course) : List Token := c.found.filter (·.rule.captures)

namespace RuleSet

/-- The first of the rules that matches at the start of a text, with what it matches. -/
def firstMatch? (rules : List Rule) (text : List Char) : Option (List Char × Rule) :=
  rules.findSome? fun r => (r.matchStart? text).map (·, r)

/-- The first rule that matches at a byte position of a text, with what it matches. -/
def nextMatch? (set : RuleSet) (text : List Char) (pos : Nat) : Option (List Char × Rule) :=
  set.rules.findSome? fun r => (r.matchAt? text pos).map (·, r)

/-- The course of a scan with the given rules over a text that starts at a byte offset. -/
def courseFrom (rules : List Rule) (offset : Nat) (text : List Char) : Course :=
  if text = [] then ⟨[], .finished, offset, []⟩
  else match firstMatch? rules text with
    | none => ⟨[], .noMatch, offset, text⟩
    | some (matched, rule) =>
      if matched = [] then ⟨[], .emptyMatch rule, offset, text⟩
      else
        let course :=
          courseFrom rules (offset + Text.byteLength matched) (text.drop matched.length)
        { course with found := ⟨String.ofList matched, rule, offset⟩ :: course.found }
termination_by text.length
decreasing_by
  have := List.length_pos_iff.2 ‹¬ text = []›
  have := List.length_pos_iff.2 ‹¬ matched = []›
  simp only [List.length_drop]
  omega

/-- The course of a scan over a text. -/
def course (set : RuleSet) (text : List Char) : Course := courseFrom set.rules 0 text

end RuleSet
end OrderedLexer
