import OrderedLexer.Json.Value
import OrderedLexer.Scan.Course
import OrderedLexer.Source.Location
import OrderedLexer.Text.Quoted

/-!
# Tokens of a text

`RuleSet.scan` gives the tokens that are kept from the course of a scan, or the error at which it
stops. An error tells where in the text it lies.
-/

namespace OrderedLexer

namespace Token

/-- The byte offset behind the token. -/
def stop (t : Token) : Nat := t.offset + Text.byteLength t.text.toList

/-- The label of the rule and the text, in parentheses. -/
def display (t : Token) : String := s!"({t.rule.label} {Text.quoteString t.text})"

/-- A token as JSON. -/
def toJson (t : Token) : Json.Value :=
  .object [("offset", .integer t.offset), ("rule", .string t.rule.label), ("text", .string t.text)]

end Token

/-- Why a scan stops before the end of its text. -/
inductive ScanError where
  /-- No rule matches; the window shows the text ahead. -/
  | noMatch (offset : Nat) (window : String) (location : Location)
  | emptyMatch (pattern : String) (location : Location)
deriving DecidableEq

def ScanError.message : ScanError → String
  | .noMatch _ window location =>
    s!"failed to tokenize the beginning of sequence '{window}', {location.display}" ++
      "\nplease verify your rule set"
  | .emptyMatch pattern location =>
    s!"rule `{pattern}` matched the empty string, {location.display}"

namespace Course

/-- The number of characters of the text ahead that an error shows if nothing else is asked for. -/
def windowSize : Nat := 25

/-- The characters that an error shows of the text where the scan halts. -/
def window (c : Course) (size : Nat) : String := String.ofList (c.rest.take size)

/-- The tokens kept in the course of a scan over a text, or why it stopped. -/
def tokens (c : Course) (ix : LineIndex) (size : Nat) : Except ScanError (List Token) :=
  match c.halt with
  | .finished => .ok c.kept
  | .noMatch => .error (.noMatch c.offset (c.window size) (ix.point c.offset))
  | .emptyMatch rule => .error (.emptyMatch rule.pattern (ix.point c.offset))

end Course

namespace RuleSet

/-- The tokens of a text, which has the name `file` in errors. -/
def scan (set : RuleSet) (text : String) (file : String := "<input>")
    (windowSize : Nat := Course.windowSize) : Except ScanError (List Token) :=
  (set.course text.toList).tokens (LineIndex.ofText file text.toList) windowSize

/-- The texts of the tokens of a text. -/
def scanTexts (set : RuleSet) (text : String) : Except ScanError (List String) :=
  (set.scan text).map (·.map (·.text))

end RuleSet
end OrderedLexer
