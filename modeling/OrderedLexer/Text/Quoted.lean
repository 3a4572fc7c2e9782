import OrderedLexer.Unicode.Letter

/-!
# Texts with escapes

* `quote` puts a text between double quotes and escapes what does not print, and every character
  that extends the one before it.
* `escape` escapes both kinds of quote as well, but lets an extending character stand unless it
  comes first.

A character without an escape of its own is written as `\u` with its code in braces.
-/

namespace OrderedLexer.Text

open Unicode (isPrintable isGraphemeExtend)

/-- A code point in lower-case hexadecimal digits. -/
def hexDigits (n : Nat) : List Char := Nat.toDigits 16 n

/-- The escape of a character by its code. -/
def escapeCode (c : Char) : List Char :=
  '\\' :: 'u' :: '\x7b' :: hexDigits c.toNat ++ ['\x7d']

/-- A character as it is written between quotes. -/
def escapeChar (singleQuote extending : Bool) (c : Char) : List Char :=
  match c with
  | '\x00' => ['\\', '0']
  | '\t' => ['\\', 't']
  | '\r' => ['\\', 'r']
  | '\n' => ['\\', 'n']
  | '\\' => ['\\', '\\']
  | '"' => ['\\', '"']
  | '\'' => if singleQuote then ['\\', '\''] else ['\'']
  | c =>
    if extending && isGraphemeExtend c then escapeCode c
    else if isPrintable c then [c]
    else escapeCode c

/-- A text between double quotes. -/
def quote (text : List Char) : List Char :=
  '"' :: text.flatMap (escapeChar false true) ++ ['"']

/-- A text with escapes, without quotes around it. -/
def escape : List Char → List Char
  | [] => []
  | c :: cs => escapeChar true true c ++ cs.flatMap (escapeChar true false)

/-- A string between double quotes. -/
def quoteString (text : String) : String := String.ofList (quote text.toList)

/-- A string with escapes. -/
def escapeString (text : String) : String := String.ofList (escape text.toList)

end OrderedLexer.Text
