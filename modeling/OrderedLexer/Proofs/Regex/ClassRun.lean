import OrderedLexer.Rule

namespace OrderedLexer

/-!
# Runs of a class

The program of a class that is repeated at least once takes the characters of the class that a text
starts with, all of them.

* `Regex.Program.someOf` — this program;
* `Regex.Program.run_someOf` — once it has begun, it goes on to the end of the run;
* `Regex.Program.matchLength?_someOf` — it matches the whole run, unless that is empty;
* `Rule.matchStart?_whitespace` — so does a rule with the pattern `\s+` for the blanks.
-/

namespace Regex.Program

variable {set : CharSet} {before after : Option Char}

/-- The program of a class that is repeated at least once, as often as possible. -/
def someOf (set : CharSet) : Program := ofExpr (.repetition 1 none true (.cls set))

/-- At first a character of the class is needed. -/
theorem closure_someOf_start :
    (someOf set).closure before after [(someOf set).start] = ⟨[(set, 1)], false⟩ := rfl

/-- Behind a character of the class another one may follow, and the program accepts. -/
theorem closure_someOf_choice :
    (someOf set).closure before after [1] = ⟨[(set, 1)], true⟩ := rfl

/-- **Run.** Once it has begun, the program goes on as long as characters of the class follow. -/
theorem run_someOf (consumed : Nat) (best : Option Nat) (text : List Char) :
    (someOf set).run ⟨[(set, 1)], true⟩ consumed best text =
      some (consumed + (text.takeWhile set.contains).length) := by
  induction text generalizing consumed best with
  | nil => rfl
  | cons c rest ih =>
    rw [run]
    by_cases hc : set.contains c = true
    · simp only [Frontier.after, List.filterMap_cons, List.filterMap_nil, hc, if_true,
        closure_someOf_choice, List.takeWhile_cons, List.length_cons]
      rw [ih, Nat.add_assoc, Nat.add_comm 1]
    · simp [Frontier.after, hc]

/-- **Longest run.** The program matches all characters of the class that a text starts with, and
    nothing if there are none. -/
theorem matchLength?_someOf (set : CharSet) (text : List Char) :
    (someOf set).matchLength? text =
      if text.takeWhile set.contains = [] then none
      else some (text.takeWhile set.contains).length := by
  rw [matchLength?, closure_someOf_start]
  cases text with
  | nil => rfl
  | cons c rest =>
    rw [run]
    by_cases hc : set.contains c = true
    · simp only [Frontier.after, List.filterMap_cons, List.filterMap_nil, hc, if_true,
        closure_someOf_choice, run_someOf, List.takeWhile_cons, List.length_cons]
      simp [Nat.add_comm]
    · simp [Frontier.after, hc]

end Regex.Program

/-! ### Blanks -/

/-- The pattern `\s+` repeats the class of the blanks. -/
theorem Regex.compile_whitespace :
    Regex.compile "\\s+" = .ok ⟨Program.someOf Unicode.whiteSpace⟩ := by
  have heval : (Regex.compile "\\s+").toOption = some ⟨Program.someOf Unicode.whiteSpace⟩ := by
    decide +kernel
  cases hcompile : Regex.compile "\\s+" with
  | ok regex =>
    rw [hcompile] at heval
    exact congrArg Except.ok (Option.some.inj heval)
  | error fault =>
    rw [hcompile] at heval
    contradiction

/-- The blanks that a text starts with. -/
def Text.blanks (text : List Char) : List Char := text.takeWhile Unicode.isWhitespace

/-- **Blanks.** A rule with the pattern `\s+` matches all blanks that a text starts with, and does
    not match if there are none. -/
theorem Rule.matchStart?_whitespace {r : Rule} (h : r.pattern = "\\s+") (text : List Char) :
    r.matchStart? text = if Text.blanks text = [] then none else some (Text.blanks text) := by
  have hregex : r.regex = ⟨Regex.Program.someOf Unicode.whiteSpace⟩ := by
    have hcompile := Regex.compile_whitespace
    rw [← h, r.compiles] at hcompile
    exact Except.ok.inj hcompile
  have htake : text.take (Text.blanks text).length = Text.blanks text :=
    (List.prefix_iff_eq_take.1 (List.takeWhile_prefix _)).symm
  rw [matchStart?, Regex.matchLength?, hregex, Regex.Program.matchLength?_someOf]
  show Option.map text.take (if Text.blanks text = [] then none
    else some (Text.blanks text).length) = _
  split
  · rfl
  · rw [Option.map_some, htake]

end OrderedLexer
