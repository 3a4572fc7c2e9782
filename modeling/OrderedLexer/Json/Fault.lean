import OrderedLexer.Rule
import OrderedLexer.Text.Quoted

/-!
# Why a JSON text is refused

`Fault.category` tells malformed text, text that ends too early, and well-formed text that does not
say what is expected. `Fault.message` says what is wrong.
-/

namespace OrderedLexer.Json

/-- What stands where something else is expected. -/
inductive Found where
  | null
  | boolean (b : Bool)
  | integer (n : Int)
  | floating (text : String)
  | string (s : String)
  | sequence
  | map
deriving DecidableEq

def Found.display : Found → String
  | .null => "null"
  | .boolean b => s!"boolean `{b}`"
  | .integer n => s!"integer `{n}`"
  | .floating text => s!"floating point `{text}`"
  | .string s => s!"string {Text.quoteString s}"
  | .sequence => "sequence"
  | .map => "map"

/-- The kinds of faults. -/
inductive Category where
  | malformed
  | mismatch
  | unfinished
deriving DecidableEq

/-- Why a JSON text is refused. -/
inductive Fault where
  | expectedValue
  | expectedWord
  | expectedColon
  | expectedCommaOrBrace
  | expectedCommaOrBracket
  | keyNotString
  | trailingComma
  | trailingCharacters
  | invalidNumber
  | numberOutOfRange
  | invalidEscape
  | loneSurrogate
  | hexEscapeUnfinished
  | controlCharacter
  | unfinishedObject
  | unfinishedList
  | unfinishedString
  | unfinishedValue
  | missingField (name : String)
  | duplicateField (name : String)
  | invalidType (found : Found) (expected : String)
  | invalidInteger (n : Int)
  | invalidLength (length : Nat) (expected : String)
  | unknownVariant (name : String)
  | invalidPattern (e : InvalidPattern)
deriving DecidableEq

namespace Fault

def category : Fault → Category
  | .unfinishedObject | .unfinishedList | .unfinishedString | .unfinishedValue => .unfinished
  | .missingField _ | .duplicateField _ | .invalidType _ _ | .invalidInteger _
  | .invalidLength _ _ | .unknownVariant _ | .invalidPattern _ => .mismatch
  | _ => .malformed

def message : Fault → String
  | .expectedValue => "expected value"
  | .expectedWord => "expected ident"
  | .expectedColon => "expected `:`"
  | .expectedCommaOrBrace => "expected `,` or `\x7d`"
  | .expectedCommaOrBracket => "expected `,` or `]`"
  | .keyNotString => "key must be a string"
  | .trailingComma => "trailing comma"
  | .trailingCharacters => "trailing characters"
  | .invalidNumber => "invalid number"
  | .numberOutOfRange => "number out of range"
  | .invalidEscape => "invalid escape"
  | .loneSurrogate => "lone leading surrogate in hex escape"
  | .hexEscapeUnfinished => "unexpected end of hex escape"
  | .controlCharacter =>
    "control character (\\u0000-\\u001F) found while parsing a string"
  | .unfinishedObject => "EOF while parsing an object"
  | .unfinishedList => "EOF while parsing a list"
  | .unfinishedString => "EOF while parsing a string"
  | .unfinishedValue => "EOF while parsing a value"
  | .missingField name => s!"missing field `{name}`"
  | .duplicateField name => s!"duplicate field `{name}`"
  | .invalidType found expected => s!"invalid type: {found.display}, expected {expected}"
  | .invalidInteger n => s!"invalid value: integer `{n}`, expected i32"
  | .invalidLength length expected => s!"invalid length {length}, expected {expected}"
  | .unknownVariant name =>
    s!"unknown variant `{name}`, expected one of `end`, `natural`, `immediate`"
  | .invalidPattern e => e.message

end Fault
end OrderedLexer.Json
