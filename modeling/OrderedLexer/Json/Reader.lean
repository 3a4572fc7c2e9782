import OrderedLexer.Decimal.Double
import OrderedLexer.Json.Fault
import OrderedLexer.RuleSet.OrderKey

/-!
# Reading JSON

A `Reader` consumes a text from left to right and stops at the first fault. What is expected steers
the reading, so a value of the wrong type is refused where it stands, before what follows it is
looked at. Loops carry a number that bounds the characters ahead.

* `string`, `boolean`, `orderKey`, `optional`, `list`, `record` read values of known types.
* `skipValue` passes over any value.
* `whole` reads a text that must hold nothing else.
-/

namespace OrderedLexer.Json

/-- A reader consumes characters or finds a fault. -/
abbrev Reader := StateT (List Char) (Except Fault)

namespace Reader

def isBlank (c : Char) : Bool := c = ' ' || c = '\n' || c = '\t' || c = '\r'

/-- Skip blanks. -/
def blanks : Reader Unit := modify (·.dropWhile isBlank)

/-- The next character. -/
def peek : Reader (Option Char) := do return (← get).head?

/-- Step over the next character. -/
def advance : Reader Unit := modify (·.drop 1)

/-- Take the next character; `fault` if there is none. -/
def take (fault : Fault) : Reader Char := do
  match ← get with
  | c :: rest =>
    set rest
    return c
  | [] => throw fault

/-- Skip blanks and look at the next character; `fault` if there is none. -/
def upcoming (fault : Fault) : Reader Char := do
  blanks
  match ← peek with
  | some c => return c
  | none => throw fault

/-- The number of characters ahead. -/
def remaining : Reader Nat := do return (← get).length

/-- Read the rest of a word of which the first letter is read. -/
def word : List Char → Reader Unit
  | [] => return ()
  | c :: rest => do
    if (← take .unfinishedValue) != c then throw .expectedWord
    word rest

/-! ### Strings -/

def hexDigit? (c : Char) : Option Nat :=
  if c.isDigit then some (c.toNat - 48)
  else if 'a' ≤ c && c ≤ 'f' then some (c.toNat - 87)
  else if 'A' ≤ c && c ≤ 'F' then some (c.toNat - 55)
  else none

/-- Read the four digits of an escape. -/
def hexEscape : Reader Nat := do
  let cs ← get
  if Text.byteLength cs < 4 then throw .unfinishedString
  match cs with
  | a :: b :: c :: d :: rest =>
    match hexDigit? a, hexDigit? b, hexDigit? c, hexDigit? d with
    | some a, some b, some c, some d =>
      set rest
      return ((a * 16 + b) * 16 + c) * 16 + d
    | _, _, _, _ => throw .invalidEscape
  | _ => throw .invalidEscape

/-- Read the second half of a surrogate pair. -/
def secondSurrogate : Reader Nat := do
  if (← take .unfinishedString) != '\\' then throw .hexEscapeUnfinished
  if (← take .unfinishedString) != 'u' then throw .hexEscapeUnfinished
  let n ← hexEscape
  if 0xDC00 ≤ n && n ≤ 0xDFFF then return n else throw .loneSurrogate

/-- Read the character that an escape with digits stands for. -/
def unicodeEscape : Reader Char := do
  let n ← hexEscape
  if 0xDC00 ≤ n && n ≤ 0xDFFF then throw .loneSurrogate
  if 0xD800 ≤ n && n ≤ 0xDBFF then
    let m ← secondSurrogate
    return Char.ofNat ((n - 0xD800) * 0x400 + (m - 0xDC00) + 0x10000)
  else return Char.ofNat n

/-- The character that a letter stands for after a backslash. -/
def shortEscape? : Char → Option Char
  | '"' => some '"'
  | '\\' => some '\\'
  | '/' => some '/'
  | 'b' => some '\x08'
  | 'f' => some '\x0c'
  | 'n' => some '\n'
  | 'r' => some '\r'
  | 't' => some '\t'
  | _ => none

/-- Read the character that an escape stands for. -/
def escaped : Reader Char := do
  let e ← take .unfinishedString
  match shortEscape? e with
  | some c => return c
  | none => if e = 'u' then unicodeEscape else throw .invalidEscape

/-- Read a string of which the first quote is read; `fuel` bounds its characters, and those read
    come last first. -/
def stringBody : Nat → List Char → Reader (List Char)
  | 0, _ => throw .unfinishedString
  | fuel + 1, cs => do
    let c ← take .unfinishedString
    if c = '"' then return cs.reverse
    else if c = '\\' then stringBody fuel ((← escaped) :: cs)
    else if c.toNat < 0x20 then throw .controlCharacter
    else stringBody fuel (c :: cs)

/-- Read the rest of a string. -/
def restOfString : Reader String := do return String.ofList (← stringBody ((← remaining) + 1) [])

/-- Pass over a string of which the first quote is read. Surrogates need not be paired. -/
def skipString : Nat → Reader Unit
  | 0 => throw .unfinishedString
  | fuel + 1 => do
    let c ← take .unfinishedString
    if c = '"' then return ()
    else if c = '\\' then
      let e ← take .unfinishedString
      if e = 'u' then
        let _ ← hexEscape
      else if (shortEscape? e).isNone then throw .invalidEscape
      skipString fuel
    else if c.toNat < 0x20 then throw .controlCharacter
    else skipString fuel

/-! ### Numbers -/

/-- A number as it is held: an integer of 64 bits, or a floating number by its text. -/
inductive Number where
  | integer (n : Int)
  | floating (text : String)

def Number.found : Number → Found
  | .integer n => .integer n
  | .floating text => .floating text

/-- The floating number for a significand and a decimal exponent. -/
def floating (negative : Bool) (significand : Nat) (exponent : Int) : Reader Number :=
  match Decimal.scale? significand.toUInt64 exponent with
  | some x => return .floating (Decimal.doubleText negative x)
  | none => throw .numberOutOfRange

/-- Take the digits ahead. -/
def takeDigits : Reader (List Char) := do
  let (ds, rest) := (← get).span Char.isDigit
  set rest
  return ds

/-- Add digits to a significand for as long as it fits 64 bits: the significand, the number of
    digits added, and whether all were. -/
def accumulate : Nat → Nat → List Char → Nat × Nat × Bool
  | significand, added, [] => (significand, added, true)
  | significand, added, d :: ds =>
    let next := significand * 10 + (d.toNat - 48)
    if next < 0x10000000000000000 then accumulate next (added + 1) ds
    else (significand, added, false)

/-- Read an exponent of which the letter is ahead. -/
def exponent (negative : Bool) (significand : Nat) (start : Int) : Reader Number := do
  advance
  let sign ← peek
  if sign = some '+' || sign = some '-' then advance
  let first ← take .unfinishedValue
  if !first.isDigit then throw .invalidNumber
  let e : Nat := (first :: (← takeDigits)).foldl (fun n d => n * 10 + (d.toNat - 48)) 0
  if e < 0x80000000 then
    let change : Int := if sign = some '-' then -e else e
    floating negative significand (start + change)
  else if significand != 0 && sign != some '-' then throw .numberOutOfRange
  else return .floating (Decimal.doubleText negative 0)

/-- Read an exponent if there is one. -/
def maybeExponent (negative : Bool) (significand : Nat) (start : Int) : Reader Number := do
  match ← peek with
  | some 'e' | some 'E' => exponent negative significand start
  | _ => floating negative significand start

/-- Read a fraction of which the point is ahead. -/
def fraction (negative : Bool) (significand : Nat) (start : Int) : Reader Number := do
  advance
  let ds ← takeDigits
  if ds.isEmpty then
    if (← peek).isSome then throw .invalidNumber else throw .unfinishedValue
  let (significand, added, _) := accumulate significand 0 ds
  maybeExponent negative significand (start - added)

/-- Read a number after its sign. -/
def number (negative : Bool) : Reader Number := do
  let first ← take .unfinishedValue
  if !first.isDigit then throw .invalidNumber
  let more ← if first = '0' then pure [] else takeDigits
  if first = '0' && (← peek).any Char.isDigit then throw .invalidNumber
  let (significand, added, complete) := accumulate 0 0 (first :: more)
  let start : Int := (first :: more).length - added
  match ← peek with
  | some '.' => fraction negative significand start
  | some 'e' | some 'E' => exponent negative significand start
  | _ =>
    if !complete || (negative && (significand = 0 || 0x8000000000000000 < significand)) then
      floating negative significand start
    else return .integer (if negative then -significand else significand)

/-- Read a number whose first character is ahead. -/
def signedNumber : Reader Number := do
  if (← peek) = some '-' then
    advance
    number true
  else number false

/-- Pass over an exponent of which the letter is ahead. -/
def skipExponent : Reader Unit := do
  advance
  let sign ← peek
  if sign = some '+' || sign = some '-' then advance
  if (← takeDigits).isEmpty then throw .invalidNumber

/-- Pass over a number after its sign. It may be of any size. -/
def skipNumber : Reader Unit := do
  let first ← take .invalidNumber
  if !first.isDigit then throw .invalidNumber
  if first = '0' then
    if (← peek).any Char.isDigit then throw .invalidNumber
  else
    let _ ← takeDigits
  if (← peek) = some '.' then
    advance
    if (← takeDigits).isEmpty then throw .invalidNumber
  match ← peek with
  | some 'e' | some 'E' => skipExponent
  | _ => return ()

/-! ### Values of a known type -/

/-- Refuse the value ahead, which starts with `c`, unless it is malformed itself. -/
def refuse (c : Char) (expected : String) : Reader α := do
  let mismatch (found : Found) : Reader α := throw (.invalidType found expected)
  match c with
  | 'n' =>
    word "null".toList
    mismatch .null
  | 't' =>
    word "true".toList
    mismatch (.boolean true)
  | 'f' =>
    word "false".toList
    mismatch (.boolean false)
  | '"' =>
    advance
    mismatch (.string (← restOfString))
  | '[' => mismatch .sequence
  | '\x7b' => mismatch .map
  | c =>
    if c = '-' || c.isDigit then mismatch (← signedNumber).found
    else throw .expectedValue

def string (expected : String := "a string") : Reader String := do
  let c ← upcoming .unfinishedValue
  if c = '"' then
    advance
    restOfString
  else refuse c expected

def boolean : Reader Bool := do
  let c ← upcoming .unfinishedValue
  match c with
  | 't' =>
    word "true".toList
    return true
  | 'f' =>
    word "false".toList
    return false
  | c => refuse c "a boolean"

def null : Reader Unit := do
  let c ← upcoming .unfinishedValue
  if c = 'n' then word "null".toList else refuse c "unit"

/-- Read the key of an order. -/
def orderKey : Reader OrderKey := do
  let c ← upcoming .unfinishedValue
  if c = '-' || c.isDigit then
    match ← signedNumber with
    | .integer n =>
      match OrderKey.ofInt? n with
      | some k => return k
      | none => throw (.invalidInteger n)
    | .floating text => throw (.invalidType (.floating text) "i32")
  else refuse c "i32"

/-- Read `null` or a value. -/
def optional (value : Reader α) : Reader (Option α) := do
  blanks
  if (← peek) = some 'n' then
    word "null".toList
    return none
  else return some (← value)

/-! ### Lists and objects -/

/-- Whether another element follows in a list; a comma before it is read. -/
def moreElements (first : Bool) : Reader Bool := do
  let c ← upcoming .unfinishedList
  if c = ']' then return false
  else if first then return true
  else if c = ',' then
    advance
    if (← upcoming .unfinishedValue) = ']' then throw .trailingComma
    return true
  else throw .expectedCommaOrBracket

/-- Read the bracket that closes a list. -/
def closeList : Reader Unit := do
  let c ← upcoming .unfinishedList
  if c = ']' then advance
  else if c = ',' then
    advance
    blanks
    if (← peek) = some ']' then throw .trailingComma else throw .trailingCharacters
  else throw .trailingCharacters

/-- Read elements up to the end of a list; `fuel` bounds their number. -/
def elements (element : Reader α) : Nat → Bool → Reader (List α)
  | 0, _ => throw .unfinishedList
  | fuel + 1, first => do
    if ← moreElements first then
      let a ← element
      return a :: (← elements element fuel false)
    else return []

/-- Read a list. -/
def list (element : Reader α) : Reader (List α) := do
  let c ← upcoming .unfinishedValue
  if c = '[' then
    advance
    let as ← elements element ((← remaining) + 1) true
    closeList
    return as
  else refuse c "a sequence"

/-- Read the colon after a key. -/
def colon : Reader Unit := do
  if (← upcoming .unfinishedObject) = ':' then advance else throw .expectedColon

/-- Read the next key of an object up to its colon; none at the end. -/
def nextKey? (first : Bool) : Reader (Option String) := do
  let c ← upcoming .unfinishedObject
  if c = '\x7d' then return none
  let c ← if first then pure c
    else if c = ',' then do
      advance
      let c ← upcoming .unfinishedValue
      if c = '\x7d' then throw .trailingComma
      pure c
    else throw .expectedCommaOrBrace
  if c != '"' then throw .keyNotString
  advance
  return some (← restOfString)

/-- Read the fields of an object into a state; `fuel` bounds their number. `field` gets each key,
    and reads the colon and the value. -/
def fields (field : String → σ → Reader σ) : Nat → Bool → σ → Reader σ
  | 0, _, _ => throw .unfinishedObject
  | fuel + 1, first, state => do
    match ← nextKey? first with
    | some key => fields field fuel false (← field key state)
    | none => return state

/-- Read a field that may occur once. -/
def once (name : String) (current : Option α) (value : Reader α) : Reader (Option α) := do
  if current.isSome then throw (.duplicateField name)
  colon
  return some (← value)

/-- Read a record: an object, whose fields `field` collects and `ofFields` checks, or a list of the
    values in the order of declaration, which `ofList` reads. -/
def record (expected : String) (empty : σ) (field : String → σ → Reader σ)
    (ofFields : σ → Reader α) (ofList : Reader α) : Reader α := do
  let c ← upcoming .unfinishedValue
  if c = '[' then
    advance
    let a ← ofList
    closeList
    return a
  else if c = '\x7b' then
    advance
    let a ← ofFields (← fields field ((← remaining) + 1) true empty)
    if (← upcoming .unfinishedObject) = '\x7d' then advance
    return a
  else refuse c expected

/-- The element at place `i` of a list, if there is one. -/
def element? (i : Nat) (value : Reader α) : Reader (Option α) := do
  if ← moreElements (i = 0) then return some (← value) else return none

/-! ### Values of any type -/

/-- Whether a list or an object is open. -/
inductive Frame where
  | list
  | object
deriving DecidableEq

/-- Read a key and its colon where a value is passed over. -/
def skipKey : Reader Unit := do
  if (← upcoming .unfinishedObject) != '"' then throw .keyNotString
  advance
  skipString ((← remaining) + 1)
  colon

/-- Go on after a value, inside the frames that are open: close frames and read a comma, until
    another value is ahead or all frames are closed. `comma` tells whether a comma may come; the
    number bounds the characters ahead. -/
def afterValue : Nat → Bool → List Frame → Reader (List Frame)
  | 0, _, _ => throw .unfinishedValue
  | _, _, [] => return []
  | fuel + 1, comma, frame :: outer => do
    let (close, unfinished, expected) := match frame with
      | .list => (']', Fault.unfinishedList, Fault.expectedCommaOrBracket)
      | .object => ('\x7d', Fault.unfinishedObject, Fault.expectedCommaOrBrace)
    let c ← upcoming unfinished
    if c = close then
      advance
      afterValue fuel true outer
    else if comma && c != ',' then throw expected
    else
      if comma then advance
      if frame = .object then skipKey
      return frame :: outer

/-- Pass over a value inside the frames that are open; `fuel` bounds the characters ahead. -/
def skipWithin : Nat → List Frame → Reader Unit
  | 0, _ => throw .unfinishedValue
  | fuel + 1, frames => do
    let c ← upcoming .unfinishedValue
    let opened ← match c with
      | 'n' => do
        word "null".toList
        pure none
      | 't' => do
        word "true".toList
        pure none
      | 'f' => do
        word "false".toList
        pure none
      | '"' => do
        advance
        skipString ((← remaining) + 1)
        pure none
      | '[' => do
        advance
        pure (some Frame.list)
      | '\x7b' => do
        advance
        pure (some Frame.object)
      | '-' => do
        advance
        skipNumber
        pure none
      | c => do
        if c.isDigit then
          skipNumber
          pure none
        else throw .expectedValue
    let frames ← match opened with
      | some frame => afterValue ((← remaining) + 1) false (frame :: frames)
      | none => afterValue ((← remaining) + 1) true frames
    if frames.isEmpty then return () else skipWithin fuel frames

/-- Pass over a value. -/
def skipValue : Reader Unit := do skipWithin ((← remaining) + 1) []

/-- Read a text that holds nothing besides one value. -/
def whole (value : Reader α) (text : List Char) : Except Fault α := do
  let (a, rest) ← value.run text
  if (rest.dropWhile isBlank).isEmpty then return a else throw .trailingCharacters

end Reader
end OrderedLexer.Json
