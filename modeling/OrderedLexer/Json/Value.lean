/-!
# JSON values and how they are written

A `Value` is written by `Value.print` under a `Layout`, which tells what stands between its parts:
nothing in the compact layout, line breaks and two blanks for each level in the indented one.
-/

namespace OrderedLexer.Json

/-- A JSON value. -/
inductive Value where
  | boolean (b : Bool)
  | integer (n : Int)
  | string (s : String)
  | list (elements : List Value)
  | object (fields : List (String × Value))

/-! ### Strings -/

/-- A digit of a hexadecimal number in lower case. -/
def hexDigit (n : Nat) : Char := if n < 10 then Char.ofNat (48 + n) else Char.ofNat (87 + n)

/-- A character as it is written in a string. -/
def escapeChar (c : Char) : List Char :=
  match c with
  | '"' => ['\\', '"']
  | '\\' => ['\\', '\\']
  | '\x08' => ['\\', 'b']
  | '\x0c' => ['\\', 'f']
  | '\n' => ['\\', 'n']
  | '\r' => ['\\', 'r']
  | '\t' => ['\\', 't']
  | c =>
    if c.toNat < 0x20 then
      ['\\', 'u', '0', '0', hexDigit (c.toNat / 16), hexDigit (c.toNat % 16)]
    else [c]

/-- A string between quotes. -/
def printString (s : String) : List Char := '"' :: s.toList.flatMap escapeChar ++ ['"']

/-! ### Values -/

/-- What stands between the parts of a value. -/
structure Layout where
  /-- What stands before an element and before a closing bracket, by depth. -/
  lineBreak : Nat → List Char
  /-- What stands between a key and its value. -/
  colon : List Char

/-- Nothing stands between the parts of a value. -/
def Layout.compact : Layout := ⟨fun _ => [], [':']⟩

/-- Each element has a line of its own, indented by two blanks for each level. -/
def Layout.indented : Layout := ⟨fun depth => '\n' :: List.replicate (2 * depth) ' ', [':', ' ']⟩

namespace Value

mutual

/-- A value as it is written at the given depth. -/
def printAt (layout : Layout) (depth : Nat) : Value → List Char
  | .boolean b => (toString b).toList
  | .integer n => (toString n).toList
  | .string s => printString s
  | .list [] => ['[', ']']
  | .list (v :: vs) =>
    '[' :: layout.lineBreak (depth + 1) ++ printAt layout (depth + 1) v
      ++ printElements layout (depth + 1) vs ++ layout.lineBreak depth ++ [']']
  | .object [] => ['\x7b', '\x7d']
  | .object ((key, v) :: fs) =>
    '\x7b' :: layout.lineBreak (depth + 1) ++ printString key ++ layout.colon
      ++ printAt layout (depth + 1) v ++ printFields layout (depth + 1) fs
      ++ layout.lineBreak depth ++ ['\x7d']

/-- The elements after the first of a list. -/
def printElements (layout : Layout) (depth : Nat) : List Value → List Char
  | [] => []
  | v :: vs =>
    ',' :: layout.lineBreak depth ++ printAt layout depth v ++ printElements layout depth vs

/-- The fields after the first of an object. -/
def printFields (layout : Layout) (depth : Nat) : List (String × Value) → List Char
  | [] => []
  | (key, v) :: fs =>
    ',' :: layout.lineBreak depth ++ printString key ++ layout.colon ++ printAt layout depth v
      ++ printFields layout depth fs

end

/-- A value as it is written. -/
def print (layout : Layout) (v : Value) : String := String.ofList (printAt layout 0 v)

end Value
end OrderedLexer.Json
