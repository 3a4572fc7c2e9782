import OrderedLexer.Proofs.RuleSet.History
import OrderedLexer.RuleFile.Plain.Reader

namespace OrderedLexer.RuleFile.Plain

/-!
# The grammar of plain rule files

A plain rule file is told line by line, without a reader: which lines there are, what each says, and
what rule set all of them come to.

* `linesOf` — the lines of a text, each without what may stand before it;
* `LineText` — what a line says: nothing, a directive, or a rule;
* `entriesFrom`, `floorOf` — the rules of the lines with their orders, and the floor they set;
* `Describes` — a text describes a rule set by its lines.
-/

/-! ### Lines -/

/-- What a line says. -/
inductive Line where
  | nothing
  | next
  | order (key : OrderKey)
  | start (key : OrderKey)
  | rule (r : Rule)

/-- The lines of a text, cut at line feeds, each without a carriage return at its end and without
    the whitespace at its start. -/
def linesOf (text : List Char) : List (List Char) :=
  (text.splitOn '\n').map fun line => (trimReturn line).dropWhile Unicode.isWhitespace

/-- A carriage return stands only right before a line feed. -/
def ReturnsEndLines : List Char → Prop
  | [] => True
  | c :: cs => (c = '\r' → cs.head? = some '\n') ∧ ReturnsEndLines cs

instance decidableReturnsEndLines : ∀ text, Decidable (ReturnsEndLines text)
  | [] => isTrue trivial
  | c :: cs =>
    have := decidableReturnsEndLines cs
    inferInstanceAs (Decidable ((c = '\r' → cs.head? = some '\n') ∧ ReturnsEndLines cs))

/-! ### The text of a line -/

/-- Nothing but blanks and tabs. -/
def Blanks (ws : List Char) : Prop := ∀ c ∈ ws, isBlank c = true

/-- What stands behind a word does not continue it. -/
def WordEnds (rest : List Char) : Prop := ∀ c ∈ rest.head?, isWordChar c = false

/-- Words, with blanks before, between and behind them. -/
inductive WordsText : List Char → List String → Prop
  | nil {ws : List Char} : Blanks ws → WordsText ws []
  | cons {ws word rest : List Char} {words : List String} : Blanks ws → word ≠ [] →
      (∀ c ∈ word, isWordChar c = true) → WordEnds rest → WordsText rest words →
      WordsText (ws ++ word ++ rest) (String.ofList word :: words)

/-- Decimal digits, with a minus before them or without, whose number is a key. -/
inductive IntegerText : List Char → OrderKey → Prop
  | plain {digits : List Char} {key : OrderKey} : digits ≠ [] → (∀ d ∈ digits, d.isDigit = true) →
      key.val = Nat.ofDigitChars 10 digits 0 → IntegerText digits key
  | negative {digits : List Char} {key : OrderKey} : digits ≠ [] →
      (∀ d ∈ digits, d.isDigit = true) → key.val = -Nat.ofDigitChars 10 digits 0 →
      IntegerText ('-' :: digits) key

/-- A directive: its word right behind `@` and as far as the word goes, then blanks and a number. -/
inductive DirectiveText : List Char → Line → Prop
  | next : DirectiveText "@next".toList .next
  | order {ws number : List Char} {key : OrderKey} : Blanks ws → IntegerText number key →
      WordEnds (ws ++ number) → DirectiveText ("@order".toList ++ ws ++ number) (.order key)
  | start {ws number : List Char} {key : OrderKey} : Blanks ws → IntegerText number key →
      WordEnds (ws ++ number) → DirectiveText ("@start".toList ++ ws ++ number) (.start key)

/-- What the words before the name of a rule say: whether it is ignored, and a priority; in any
    sequence. -/
inductive ModifiersText : List String → Bool → Option Priority → Prop
  | none : ModifiersText [] false none
  | ignore : ModifiersText ["ignore"] true none
  | priority (p : Priority) : ModifiersText [p.name] false (some p)
  | ignoreFirst (p : Priority) : ModifiersText ["ignore", p.name] true (some p)
  | ignoreLast (p : Priority) : ModifiersText [p.name, "ignore"] true (some p)

/-- A rule: words, of which the last is the name, `::=`, blanks, and a pattern that compiles. -/
inductive RuleText : List Char → Rule → Prop
  | mk {head ws pattern : List Char} {modifiers : List String} {name : String} {ignore : Bool}
      {priority : Option Priority} {r : Rule} :
      WordsText head (modifiers ++ [name]) → ModifiersText modifiers ignore priority → Blanks ws →
      pattern ≠ [] → (∀ c ∈ pattern.head?, isBlank c = false) →
      Rule.ofPattern (String.ofList pattern) (priority.getD .natural) (!ignore) (some name) =
        .ok r →
      RuleText (head ++ "::=".toList ++ ws ++ pattern) r

/-- What a line says. `Behind` tells what may stand behind a directive. -/
inductive LineText (Behind : List Char → Prop) : List Char → Line → Prop
  | empty : LineText Behind [] .nothing
  | comment (text : List Char) : LineText Behind ('#' :: text) .nothing
  | directive {text ws : List Char} {line : Line} : DirectiveText text line → Behind ws →
      LineText Behind (text ++ ws) line
  | rule {text : List Char} {r : Rule} : RuleText text r → LineText Behind text (.rule r)

/-! ### The meaning of lines -/

namespace Line

/-- The order of the rules that follow a line. -/
def orderAfter (key : OrderKey) : Line → OrderKey
  | .next => key.next
  | .order key => key
  | .start key => key
  | _ => key

/-- The floor that a line sets. -/
def start? : Line → Option OrderKey
  | .start key => some key
  | _ => none

/-- The rule that a line tells. -/
def rule? : Line → Option Rule
  | .rule r => some r
  | _ => none

end Line

/-- The rules of some lines, each with its order; the lines start with the order `key`. -/
def entriesFrom (key : OrderKey) : List Line → List (OrderKey × Rule)
  | [] => []
  | line :: lines => (line.rule?.toList.map (key, ·)) ++ entriesFrom (line.orderAfter key) lines

/-- The floor that the last `@start` sets. -/
def floorOf (lines : List Line) : Option OrderKey := (lines.filterMap Line.start?).getLast?

/-- No `@start` comes behind a rule. -/
def StartsFirst (lines : List Line) : Prop :=
  lines.Pairwise fun a b => a.rule?.isSome → b.start? = none

/-- A text describes a rule set: each line says something, no `@start` comes behind a rule, no rule
    stands in an order below the floor, and the rules are inserted in the sequence of the lines. -/
def Describes (Behind : List Char → Prop) (text : List Char) (set : RuleSet) : Prop :=
  ∃ lines, List.Forall₂ (LineText Behind) (linesOf text) lines ∧
    StartsFirst lines ∧
    (∀ e ∈ entriesFrom OrderKey.zero lines, ∀ low ∈ floorOf lines, low ≤ e.1) ∧
    set = (RuleSet.start (floorOf lines)).insertAll (entriesFrom OrderKey.zero lines)

end OrderedLexer.RuleFile.Plain
