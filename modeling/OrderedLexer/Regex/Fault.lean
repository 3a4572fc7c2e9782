/-!
# Why a text is no pattern

`Fault.message` is the text that a rule with such a pattern is refused with.
-/

namespace OrderedLexer.Regex

/-- The greatest number of bracketed or grouped expressions that may stand inside one another. -/
def nestLimit : Nat := 250

/-- The greatest size of a compiled pattern, in bytes. -/
def sizeLimit : Nat := 10485760

/-- Why a text is no pattern. -/
inductive Fault where
  | backreference
  | boundaryUnclosed
  | boundaryUnrecognised
  | boundaryOrRepetitionUnclosed
  | captureNameDuplicate
  | captureNameEmpty
  | captureNameInvalid
  | captureNameUnclosed
  | classEscapeInvalid
  | classNameInvalid
  | classRangeInvalid
  | classRangeNotLiteral
  | classUnclosed
  | decimalInvalid
  | escapeUnfinished
  | escapeUnrecognised
  | flagDuplicate
  | flagMissing
  | flagNegationDangling
  | flagNegationRepeated
  | flagUnrecognised
  | groupUnclosed
  | groupUnopened
  | hexDigitInvalid
  | hexEmpty
  | hexNoCharacter
  | lookAround
  | nestedTooDeeply
  | notUtf8
  | propertyUnknown
  | propertyValueUnknown
  | repetitionCountEmpty
  | repetitionCountInvalid
  | repetitionCountUnclosed
  | repetitionMissing
  | tooBig
  | unicodeNotAllowed
deriving DecidableEq, Inhabited

/-- What is wrong, in a few words. -/
def Fault.cause : Fault → String
  | .backreference => "backreferences are not supported"
  | .boundaryUnclosed =>
    "special word boundary assertion is either unclosed or contains an invalid character"
  | .boundaryUnrecognised => "unrecognized special word boundary assertion, " ++
    "valid choices are: start, end, start-half or end-half"
  | .boundaryOrRepetitionUnclosed => "found either the beginning of a special word boundary or " ++
    "a bounded repetition on a \\b with an opening brace, but no closing brace"
  | .captureNameDuplicate => "duplicate capture group name"
  | .captureNameEmpty => "empty capture group name"
  | .captureNameInvalid => "invalid capture group character"
  | .captureNameUnclosed => "unclosed capture group name"
  | .classEscapeInvalid => "invalid escape sequence found in character class"
  | .classNameInvalid => "invalid Unicode character class"
  | .classRangeInvalid => "invalid character class range, the start must be <= the end"
  | .classRangeNotLiteral => "invalid range boundary, must be a literal"
  | .classUnclosed => "unclosed character class"
  | .decimalInvalid => "decimal literal invalid"
  | .escapeUnfinished => "incomplete escape sequence, reached end of pattern prematurely"
  | .escapeUnrecognised => "unrecognized escape sequence"
  | .flagDuplicate => "duplicate flag"
  | .flagMissing => "expected flag but got end of regex"
  | .flagNegationDangling => "dangling flag negation operator"
  | .flagNegationRepeated => "flag negation operator repeated"
  | .flagUnrecognised => "unrecognized flag"
  | .groupUnclosed => "unclosed group"
  | .groupUnopened => "unopened group"
  | .hexDigitInvalid => "invalid hexadecimal digit"
  | .hexEmpty => "hexadecimal literal empty"
  | .hexNoCharacter => "hexadecimal literal is not a Unicode scalar value"
  | .lookAround => "look-around, including look-ahead and look-behind, is not supported"
  | .nestedTooDeeply =>
    s!"exceed the maximum number of nested parentheses/brackets ({nestLimit})"
  | .notUtf8 => "pattern can match invalid UTF-8"
  | .propertyUnknown => "Unicode property not found"
  | .propertyValueUnknown => "Unicode property value not found"
  | .repetitionCountEmpty => "repetition quantifier expects a valid decimal"
  | .repetitionCountInvalid => "invalid repetition count range, the start must be <= the end"
  | .repetitionCountUnclosed => "unclosed counted repetition"
  | .repetitionMissing => "repetition operator missing expression"
  | .tooBig => s!"size too big (maximum is {sizeLimit})"
  | .unicodeNotAllowed => "Unicode not allowed here"

/-- The text that a pattern is refused with. -/
def Fault.message (fault : Fault) : String :=
  match fault with
  | .tooBig => fault.cause
  | _ => "error: " ++ fault.cause

end OrderedLexer.Regex
