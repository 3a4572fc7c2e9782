import OrderedLexer.Regex.Basic
import OrderedLexer.Text.Bytes

/-!
# Rules

* `Priority` ranks the rules of one order: `immediate` before `natural` before `last`.
* `Rule` is a pattern that compiles, with its priority, whether what it matches is kept, and a name.
* `Rule.matchStart?` matches a rule at the start of a text, `Rule.matchAt?` at a byte position. Only
  the text from there on counts.
-/

namespace OrderedLexer

/-! ### Priorities -/

/-- The precedence of a rule among the rules of its order. -/
inductive Priority where
  | last
  | natural
  | immediate
deriving DecidableEq, Inhabited

namespace Priority

/-- From 1 for `last` to 3 for `immediate`. -/
def level : Priority → Nat
  | .last => 1
  | .natural => 2
  | .immediate => 3

instance : LE Priority := ⟨fun a b => a.level ≤ b.level⟩
instance : LT Priority := ⟨fun a b => a.level < b.level⟩

theorem le_def {a b : Priority} : a ≤ b ↔ a.level ≤ b.level := Iff.rfl
theorem lt_def {a b : Priority} : a < b ↔ a.level < b.level := Iff.rfl

instance (a b : Priority) : Decidable (a ≤ b) := inferInstanceAs (Decidable (a.level ≤ b.level))
instance (a b : Priority) : Decidable (a < b) := inferInstanceAs (Decidable (a.level < b.level))

def name : Priority → String
  | .last => "end"
  | .natural => "natural"
  | .immediate => "immediate"

def all : List Priority := [.last, .natural, .immediate]

/-- The priority with the given name. -/
def ofName? (name : String) : Option Priority := all.find? (·.name = name)

/-- What is said of a word that names no priority. -/
def unknownMessage (word : String) : String :=
  s!"unknown priority `{word}`, expected one of immediate, natural, end"

end Priority

/-! ### Rules -/

/-- A lexical pattern with its attributes. -/
structure Rule where
  pattern : String
  regex : Regex
  compiles : Regex.compile pattern = .ok regex
  priority : Priority := .natural
  /-- Whether what the rule matches is kept. -/
  captures : Bool := true
  name : Option String := none
deriving DecidableEq

/-- A pattern that does not compile, and why. -/
structure InvalidPattern where
  pattern : String
  fault : Regex.Fault
deriving DecidableEq

def InvalidPattern.message (e : InvalidPattern) : String :=
  s!"rule pattern `{e.pattern}` could not be compiled to a regex\n{e.fault.message}"

namespace Rule

/-- The rule with the given attributes. -/
def ofPattern (pattern : String) (priority : Priority := .natural) (captures : Bool := true)
    (name : Option String := none) : Except InvalidPattern Rule :=
  match h : Regex.compile pattern with
  | .ok regex => .ok { pattern, regex, compiles := h, priority, captures, name }
  | .error fault => .error ⟨pattern, fault⟩

/-- The name of the rule, or its pattern if it has none. -/
def label (r : Rule) : String := r.name.getD r.pattern

/-- The pattern with the level of the priority. -/
def display (r : Rule) : String := s!"{r.pattern}({r.priority.level})"

/-- As `display`, with whether the rule captures. -/
def displayFull (r : Rule) : String := s!"[{r.display} {r.captures}]"

/-- What the rule matches at the start of a text. -/
def matchStart? (r : Rule) (text : List Char) : Option (List Char) :=
  (r.regex.matchLength? text).map text.take

/-- What the rule matches at a byte position of a text; nothing behind its end or inside a
    character. -/
def matchAt? (r : Rule) (text : List Char) (pos : Nat) : Option (List Char) :=
  (Text.dropBytes? pos text).bind r.matchStart?

/-- A pattern that compiles makes a rule with any attributes. -/
theorem exists_ofPattern {pattern : String} (h : (Regex.compile pattern).isOk = true)
    (priority : Priority) (captures : Bool) (name : Option String) :
    ∃ r, ofPattern pattern priority captures name = .ok r := by
  unfold ofPattern
  split
  · exact ⟨_, rfl⟩
  · next fault hcompile =>
    rw [hcompile] at h
    contradiction

/-- Two rules with the same pattern and attributes are equal. -/
theorem ext_of_pattern {r s : Rule} (pattern : r.pattern = s.pattern)
    (priority : r.priority = s.priority) (captures : r.captures = s.captures)
    (name : r.name = s.name) : r = s := by
  obtain ⟨p, x, hx, _, _, _⟩ := r
  obtain ⟨q, y, hy, _, _, _⟩ := s
  obtain rfl : p = q := pattern
  obtain rfl : x = y := by rw [hx] at hy; exact Except.ok.inj hy
  simp_all

/-- The rule that is made has the pattern and the attributes that are given. -/
theorem ofPattern_eq_ok_iff {pattern : String} {priority : Priority} {captures : Bool}
    {name : Option String} {r : Rule} :
    ofPattern pattern priority captures name = .ok r ↔
      r.pattern = pattern ∧ r.priority = priority ∧ r.captures = captures ∧ r.name = name := by
  unfold ofPattern
  constructor
  · intro h
    split at h
    · rw [← Except.ok.inj h]
      exact ⟨rfl, rfl, rfl, rfl⟩
    · contradiction
  · rintro ⟨rfl, rfl, rfl, rfl⟩
    split
    · exact congrArg Except.ok (ext_of_pattern rfl rfl rfl rfl)
    · next fault h =>
      rw [r.compiles] at h
      contradiction

end Rule
end OrderedLexer
