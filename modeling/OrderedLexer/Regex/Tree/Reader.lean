import OrderedLexer.Regex.Tree
import OrderedLexer.Unicode.Letter

/-!
# Reading patterns

`Tree.read` reads a pattern from its text, from left to right; the first fault decides. Readers of
nested constructs carry a number that bounds the characters ahead, so that they end.
-/

namespace OrderedLexer.Regex

open Unicode (ClassName isWhitespace isAlphabetic isAlphanumeric)

/-- Where reading stands. -/
structure Reader.State where
  /-- The characters ahead. -/
  rest : List Char
  /-- Whether blanks and comments are skipped. -/
  verbose : Bool := false
  /-- The number of capturing groups opened. -/
  groups : Nat := 0
  /-- The names of the capturing groups. -/
  names : List String := []

/-- A reader consumes characters or finds a fault. -/
abbrev Reader := StateT Reader.State (Except Fault)

namespace Reader

/-! ### Blanks and comments -/

/-- Drop a comment, its line feed included. -/
def afterComment (cs : List Char) : List Char := (cs.dropWhile (· != '\n')).drop 1

/-- Drop blanks and comments; `fuel` bounds the characters. -/
def dropBlanks : Nat → List Char → List Char
  | 0, cs => cs
  | _, [] => []
  | fuel + 1, c :: cs =>
    if isWhitespace c then dropBlanks fuel cs
    else if c = '#' then dropBlanks fuel (afterComment cs)
    else c :: cs

/-- The next character. -/
def peek : Reader (Option Char) := do return (← get).rest.head?

/-- The character after the next. -/
def peekSecond : Reader (Option Char) := do return ((← get).rest.drop 1).head?

/-- Skip blanks and comments where they do not count. -/
def skipBlanks : Reader Unit := modify fun s =>
  if s.verbose then { s with rest := dropBlanks s.rest.length s.rest } else s

/-- Step over the next character. -/
def advance : Reader Unit := modify fun s => { s with rest := s.rest.drop 1 }

/-- Step over the next character and the blanks after it. -/
def advanceSkip : Reader Unit := do advance; skipBlanks

/-- Step over `keyword` if it is next. -/
def eat (keyword : String) : Reader Bool := do
  let s ← get
  if keyword.toList.isPrefixOf s.rest then
    set { s with rest := s.rest.drop keyword.length }
    return true
  else return false

/-- The next character; `fault` if there is none. -/
def next (fault : Fault) : Reader Char := do
  match ← peek with
  | some c => return c
  | none => throw fault

/-- The first character that a range could end with, after the next one. A comment sign before it is
    skipped, the comment is not. -/
def peekPastBlanks : Reader (Option Char) := do
  let s ← get
  let after := s.rest.drop 1
  if !s.verbose then return after.head?
  match after.dropWhile isWhitespace with
  | [] => return after.head?
  | '#' :: rest =>
    match rest.dropWhile isWhitespace with
    | [] => return after.head?
    | c :: _ => return some c
  | c :: _ => return some c

/-! ### Numbers -/

/-- Read digits that `accepts` takes, skipping blanks between them; `fuel` bounds their number. -/
def digits (accepts : Char → Bool) : Nat → Reader (List Char)
  | 0 => return []
  | fuel + 1 => do
    match ← peek with
    | some c =>
      if accepts c then
        advanceSkip
        return c :: (← digits accepts fuel)
      else return []
    | none => return []

def decimalValue (cs : List Char) : Nat := cs.foldl (fun n c => n * 10 + (c.toNat - 48)) 0

def hexDigitValue (c : Char) : Nat :=
  if c.isDigit then c.toNat - 48 else c.toLower.toNat - 87

def hexValue (cs : List Char) : Nat := cs.foldl (fun n c => n * 16 + hexDigitValue c) 0

def isHexDigit (c : Char) : Bool :=
  c.isDigit || ('a' ≤ c && c ≤ 'f') || ('A' ≤ c && c ≤ 'F')

/-- Read a repetition count, which blanks may surround. The fault is left for the caller to
    raise. -/
def count : Reader (Except Fault Nat) := do
  modify fun s => { s with rest := s.rest.dropWhile isWhitespace }
  let ds ← digits Char.isDigit (← get).rest.length
  modify fun s => { s with rest := s.rest.dropWhile isWhitespace }
  skipBlanks
  if ds.isEmpty then return .error .repetitionCountEmpty
  else if decimalValue ds < 0x100000000 then return .ok (decimalValue ds)
  else return .error .decimalInvalid

/-- The literal with the given hexadecimal code. -/
def hexLiteral (cs : List Char) (byte : Bool) : Reader Literal := do
  if h : (hexValue cs).isValidChar then return ⟨Char.ofNatAux _ h, byte⟩
  else throw .hexNoCharacter

/-- Read the `n` digits of a hexadecimal code. -/
def hexFixed : Nat → Reader (List Char)
  | 0 => return []
  | n + 1 => do
    let c ← next .escapeUnfinished
    if !isHexDigit c then throw .hexDigitInvalid
    advanceSkip
    return c :: (← hexFixed n)

/-- Read a hexadecimal code up to its closing brace; `fuel` bounds its digits. -/
def hexBraced : Nat → Reader (List Char)
  | 0 => throw .escapeUnfinished
  | fuel + 1 => do
    advanceSkip
    let c ← next .escapeUnfinished
    if c = '\x7d' then
      advanceSkip
      return []
    else if !isHexDigit c then throw .hexDigitInvalid
    else return c :: (← hexBraced fuel)

/-- Read the code of a character escape with the letter `kind`. -/
def hexEscape (kind : Char) : Reader Literal := do
  advanceSkip
  if (← next .escapeUnfinished) = '\x7b' then
    let cs ← hexBraced (← get).rest.length
    if cs.isEmpty then throw .hexEmpty
    hexLiteral cs false
  else match kind with
    | 'x' => hexLiteral (← hexFixed 2) true
    | 'u' => hexLiteral (← hexFixed 4) false
    | _ => hexLiteral (← hexFixed 8) false

/-! ### Escapes -/

/-- Read the name of a property up to its closing brace; `fuel` bounds its characters. -/
def propertyBraced : Nat → Reader (List Char)
  | 0 => throw .escapeUnfinished
  | fuel + 1 => do
    advanceSkip
    let c ← next .escapeUnfinished
    if c = '\x7d' then
      advance
      return []
    else return c :: (← propertyBraced fuel)

/-- Split a text at the first place where `mark` stands. -/
def splitAt? (mark : List Char) : List Char → Option (List Char × List Char)
  | [] => none
  | c :: cs =>
    if mark.isPrefixOf (c :: cs) then some ([], (c :: cs).drop mark.length)
    else (splitAt? mark cs).map fun (before, after) => (c :: before, after)

/-- The query that a braced name stands for, and whether it asks for the other characters. -/
def propertyQuery (name : List Char) : ClassName × Bool :=
  let valued (p : List Char × List Char) : ClassName :=
    .valued (String.ofList p.1) (String.ofList p.2)
  match splitAt? ['!', '='] name with
  | some p => (valued p, true)
  | none => match splitAt? [':'] name with
    | some p => (valued p, false)
    | none => match splitAt? ['='] name with
      | some p => (valued p, false)
      | none => (.named (String.ofList name), false)

/-- Read what follows the letter of a property escape. -/
def propertyEscape (negated : Bool) : Reader Tree := do
  advanceSkip
  let c ← next .escapeUnfinished
  if c = '\x7b' then
    let (name, other) := propertyQuery (← propertyBraced (← get).rest.length)
    return .property name (negated != other)
  else if c = '\\' then throw .classNameInvalid
  else
    advanceSkip
    return .property (.named (String.singleton c)) negated

/-- Whether a character stands for itself when it is escaped. -/
def isEscapable (c : Char) : Bool :=
  c.toNat < 0x80 && !c.isAlphanum && c != '<' && c != '>'

/-- Read the name of a word boundary, if one follows. What starts otherwise is left to be read as a
    repetition. -/
def boundaryName : Reader (Option Anchor) := do
  if (← peek) != some '\x7b' then return none
  let isNameChar (c : Char) : Bool := c.isAlpha || c = '-'
  let start ← get
  advanceSkip
  if !isNameChar (← next .boundaryOrRepetitionUnclosed) then
    set start
    return none
  let name ← digits isNameChar (← get).rest.length
  if (← peek) != some '\x7d' then throw .boundaryUnclosed
  advance
  match String.ofList name with
  | "start" => return some .wordStart
  | "end" => return some .wordEnd
  | "start-half" => return some .wordStartHalf
  | "end-half" => return some .wordEndHalf
  | _ => throw .boundaryUnrecognised

/-- Read an escape sequence. -/
def escape : Reader Tree := do
  advance
  let c ← next .escapeUnfinished
  match c with
  | 'x' | 'u' | 'U' => return .literal (← hexEscape c)
  | 'p' => propertyEscape false
  | 'P' => propertyEscape true
  | _ =>
    if c.isDigit then throw .backreference
    advance
    if isEscapable c then return .literal ⟨c, false⟩
    match c with
    | 'd' => return .short .digit false
    | 's' => return .short .space false
    | 'w' => return .short .word false
    | 'D' => return .short .digit true
    | 'S' => return .short .space true
    | 'W' => return .short .word true
    | 'a' => return .literal ⟨'\x07', false⟩
    | 'f' => return .literal ⟨'\x0c', false⟩
    | 't' => return .literal ⟨'\t', false⟩
    | 'n' => return .literal ⟨'\n', false⟩
    | 'r' => return .literal ⟨'\r', false⟩
    | 'v' => return .literal ⟨'\x0b', false⟩
    | 'A' => return .anchor .startText
    | 'z' => return .anchor .endText
    | 'b' => return .anchor ((← boundaryName).getD .wordBoundary)
    | 'B' => return .anchor .noWordBoundary
    | '<' => return .anchor .wordStart
    | '>' => return .anchor .wordEnd
    | _ => throw .escapeUnrecognised

/-! ### Brackets -/

def asciiClasses : List (String × AsciiClass) :=
  [("alnum", .alnum), ("alpha", .alpha), ("ascii", .ascii), ("blank", .blank), ("cntrl", .cntrl),
    ("digit", .digit), ("graph", .graph), ("lower", .lower), ("print", .print), ("punct", .punct),
    ("space", .space), ("upper", .upper), ("word", .word), ("xdigit", .xdigit)]

/-- A class such as `[:alpha:]` at the start of a text, and what follows it. -/
def asciiClass? (cs : List Char) : Option (Bracket × List Char) :=
  match cs with
  | '[' :: ':' :: cs =>
    let (negated, cs) := match cs with
      | '^' :: cs => (true, cs)
      | cs => (false, cs)
    let (name, rest) := cs.span (· != ':')
    match rest, asciiClasses.lookup (String.ofList name) with
    | ':' :: ']' :: rest, some cls => some (.ascii cls negated, rest)
    | _, _ => none
  | _ => none

/-- Read one end of a range, or a single item. -/
def bracketItem : Reader Tree := do
  let c ← next .classUnclosed
  if c = '\\' then escape
  else
    advance
    return .literal ⟨c, false⟩

/-- Read an item of a bracket: a character, a class or a range. -/
def bracketRange : Reader Bracket := do
  let first ← bracketItem
  skipBlanks
  let sign ← next .classUnclosed
  let after ← peekPastBlanks
  if sign != '-' || after = some ']' || after = some '-' then
    match first with
    | .literal l => return .literal l
    | .short cls negated => return .short cls negated
    | .property name negated => return .property name negated
    | _ => throw .classEscapeInvalid
  else
    advanceSkip
    let last ← bracketItem
    match first, last with
    | .literal a, .literal b =>
      if a.char ≤ b.char then return .range a b else throw .classRangeInvalid
    | _, _ => throw .classRangeNotLiteral

/-- Read hyphens, which stand for themselves at the start; `fuel` bounds their number. -/
def openingHyphens : Nat → Reader (List Bracket)
  | 0 => return []
  | fuel + 1 => do
    if (← next .classUnclosed) = '-' then
      advanceSkip
      return .literal ⟨'-', false⟩ :: (← openingHyphens fuel)
    else return []

/-- Read the start of a bracket: whether it is negated, and the items that count as characters only
    because they come first. -/
def bracketOpening : Reader (Bool × List Bracket) := do
  advanceSkip
  let negated := (← next .classUnclosed) = '^'
  if negated then advanceSkip
  let items ← openingHyphens (← get).rest.length
  if items.isEmpty && (← next .classUnclosed) = ']' then
    advanceSkip
    let _ ← next .classUnclosed
    return (negated, [.literal ⟨']', false⟩])
  else
    let _ ← next .classUnclosed
    return (negated, items)

/-- An operator between sets, if one is next. -/
def setOperator : Reader (Option SetOperator) := do
  match ← peek, ← peekSecond with
  | some '&', some '&' => return some .intersection
  | some '-', some '-' => return some .difference
  | some '~', some '~' => return some .symmetricDifference
  | _, _ => return none

/-- Give the last operand to an operator that waits for it. -/
def closeOperand (pending : Option (SetOperator × Bracket)) (items : List Bracket) : Bracket :=
  let last := Bracket.ofItems items.reverse
  match pending with
  | some (op, left) => .combine op left last
  | none => last

/-- Read the body of a bracket and the bracket that closes it. The items before come last first;
    operators group to the left. -/
def bracketBody : Nat → Option (SetOperator × Bracket) → List Bracket → Reader Bracket
  | 0, _, _ => throw .classUnclosed
  | fuel + 1, pending, items => do
    skipBlanks
    let c ← next .classUnclosed
    if c = '[' then
      match asciiClass? (← get).rest with
      | some (cls, rest) =>
        modify fun s => { s with rest }
        bracketBody fuel pending (cls :: items)
      | none =>
        let (negated, first) ← bracketOpening
        let body ← bracketBody fuel none first.reverse
        bracketBody fuel pending (.nested negated body :: items)
    else if c = ']' then
      advance
      return closeOperand pending items
    else match ← setOperator with
      | some op =>
        advance
        advance
        bracketBody fuel (some (op, closeOperand pending items)) []
      | none => bracketBody fuel pending ((← bracketRange) :: items)

/-- Read a bracket. -/
def bracket : Reader Tree := do
  let (negated, first) ← bracketOpening
  return .bracket negated (← bracketBody (← get).rest.length none first.reverse)

/-! ### Groups -/

def flag? : Char → Option Flag
  | 'i' => some .ignoreCase
  | 'm' => some .multiLine
  | 's' => some .dotMatchesLineFeed
  | 'U' => some .swapGreed
  | 'u' => some .unicode
  | 'R' => some .crlf
  | 'x' => some .verbose
  | _ => none

/-- What has been read of a list of flags. -/
structure FlagState where
  /-- The flags read, last first. -/
  settings : List (Flag × Bool) := []
  /-- Whether a negation sign has been read. -/
  negated : Bool := false
  /-- Whether the negation sign came last. -/
  dangling : Bool := false

/-- Read flags up to a colon or a closing parenthesis; `fuel` bounds their number. -/
def flags : Nat → FlagState → Reader FlagState
  | 0, _ => throw .flagMissing
  | fuel + 1, s => do
    let c ← next .flagMissing
    if c = ':' || c = ')' then
      if s.dangling then throw .flagNegationDangling
      return s
    else if c = '-' then
      if s.negated then throw .flagNegationRepeated
      advance
      let _ ← next .flagMissing
      flags fuel { s with negated := true, dangling := true }
    else
      let some f := flag? c | throw .flagUnrecognised
      if s.settings.any (·.1 = f) then throw .flagDuplicate
      advance
      let _ ← next .flagMissing
      flags fuel { s with settings := (f, !s.negated) :: s.settings, dangling := false }

def isNameChar (c : Char) (first : Bool) : Bool :=
  if first then c = '_' || isAlphabetic c
  else c = '_' || c = '.' || c = '[' || c = ']' || isAlphanumeric c

/-- Read the name of a group up to the angle that closes it; `fuel` bounds its characters. -/
def groupName : Nat → Bool → Reader (List Char)
  | 0, _ => throw .captureNameUnclosed
  | fuel + 1, first => do
    let c ← next .captureNameUnclosed
    if c = '>' then
      advance
      return []
    else
      if !isNameChar c first then throw .captureNameInvalid
      advance
      return c :: (← groupName fuel false)

/-- The start of a group. -/
inductive Opening where
  /-- Flags for the rest of the group around them. -/
  | flags (settings : List (Flag × Bool))
  /-- A group that captures. -/
  | capture (index : Nat)
  /-- A group that does not capture, with flags of its own. -/
  | group (settings : List (Flag × Bool))

/-- Number the next capturing group. -/
def newCapture : Reader Opening := do
  let s ← get
  set { s with groups := s.groups + 1 }
  return .capture (s.groups + 1)

/-- Whether one of the keywords is next; it is stepped over. -/
def eatAny : List String → Reader Bool
  | [] => return false
  | keyword :: rest => do
    if ← eat keyword then return true
    eatAny rest

/-- Read the name of a capturing group. -/
def namedCapture : Reader Opening := do
  let group ← newCapture
  let name := String.ofList (← groupName ((← get).rest.length + 1) true)
  if name.isEmpty then throw .captureNameEmpty
  if (← get).names.contains name then throw .captureNameDuplicate
  modify fun s => { s with names := name :: s.names }
  return group

/-- Read the flags of a group, and the colon or the parenthesis after them. -/
def flagOpening : Reader Opening := do
  let _ ← next .groupUnclosed
  let read ← flags ((← get).rest.length + 1) {}
  let settings := read.settings.reverse
  let close ← next .flagMissing
  advance
  if close != ')' then return .group settings
  if settings.isEmpty then throw .repetitionMissing
  return .flags settings

/-- Read the start of a group. -/
def opening : Reader Opening := do
  advanceSkip
  if ← eatAny ["?=", "?!", "?<=", "?<!"] then throw .lookAround
  else if ← eatAny ["?P<", "?<"] then namedCapture
  else if ← eat "?" then flagOpening
  else newCapture

/-! ### Repetitions -/

/-- The expression that a repetition repeats, and the items before it; items come last first. -/
def operand (items : List Tree) : Reader (Tree × List Tree) :=
  match items with
  | [] | .empty :: _ | .flags _ :: _ => throw .repetitionMissing
  | item :: rest => return (item, rest)

/-- Read the sign that makes a repetition lazy. -/
def greediness : Reader Bool := do
  if (← peek) = some '?' then
    advance
    return false
  else return true

/-- Read `?`, `*` or `+`. -/
def repetition (min : Nat) (max : Option Nat) (items : List Tree) : Reader (List Tree) := do
  let (sub, before) ← operand items
  advance
  return .repetition min max (← greediness) sub :: before

/-- Read the counts between braces. -/
def countedRange : Reader (Nat × Option Nat) := do
  let low ← count
  if (← next .repetitionCountUnclosed) != ',' then
    let n ← low
    return (n, some n)
  else
    advanceSkip
    if (← next .repetitionCountUnclosed) = '\x7d' then return (← low, none)
    else
      let n ← low
      let m ← (← count)
      return (n, some m)

/-- Read a repetition with counts. -/
def countedRepetition (items : List Tree) : Reader (List Tree) := do
  let (sub, before) ← operand items
  advanceSkip
  let _ ← next .repetitionCountUnclosed
  let (min, max) ← countedRange
  if (← peek) != some '\x7d' then throw .repetitionCountUnclosed
  advanceSkip
  let greedy ← greediness
  if max.any (· < min) then throw .repetitionCountInvalid
  return .repetition min max greedy sub :: before

/-! ### Alternations -/

/-- Read a single item that is neither a group nor a bracket nor a repetition. -/
def item (c : Char) : Reader Tree := do
  if c = '\\' then escape
  else
    advance
    match c with
    | '.' => return .dot
    | '^' => return .anchor .startLine
    | '$' => return .anchor .endLine
    | c => return .literal ⟨c, false⟩

/-- Read an alternation up to the end of the text or to a closing parenthesis, which is left. The
    finished alternatives and the items of the current one come last first. -/
def alternation : Nat → List Tree → List Tree → Reader Tree
  | 0, _, _ => throw .groupUnclosed
  | fuel + 1, finished, items => do
    skipBlanks
    let done : Reader Tree :=
      return Tree.ofAlternation ((Tree.ofConcat items.reverse :: finished).reverse)
    match ← peek with
    | none => done
    | some ')' => done
    | some '|' =>
      advance
      alternation fuel (Tree.ofConcat items.reverse :: finished) []
    | some '(' =>
      let outer := (← get).verbose
      match ← opening with
      | .flags settings =>
        modify fun s => { s with verbose := (settings.lookup .verbose).getD outer }
        alternation fuel finished (.flags settings :: items)
      | .capture index =>
        let sub ← alternation fuel [] []
        let _ ← next .groupUnclosed
        modify fun s => { s with verbose := outer }
        advance
        alternation fuel finished (.capture index sub :: items)
      | .group settings =>
        modify fun s => { s with verbose := (settings.lookup .verbose).getD outer }
        let sub ← alternation fuel [] []
        let _ ← next .groupUnclosed
        modify fun s => { s with verbose := outer }
        advance
        alternation fuel finished (.group settings sub :: items)
    | some '[' => alternation fuel finished ((← bracket) :: items)
    | some '?' => alternation fuel finished (← repetition 0 (some 1) items)
    | some '*' => alternation fuel finished (← repetition 0 none items)
    | some '+' => alternation fuel finished (← repetition 1 none items)
    | some '\x7b' => alternation fuel finished (← countedRepetition items)
    | some c => alternation fuel finished ((← item c) :: items)

/-- Read a whole pattern. -/
def whole : Reader Tree := do
  let tree ← alternation ((← get).rest.length + 1) [] []
  if (← peek).isSome then throw .groupUnopened
  return tree

end Reader

/-- Read a pattern. -/
def Tree.read (text : List Char) : Except Fault Tree := do
  let (tree, _) ← Reader.whole.run { rest := text }
  if tree.depth ≤ nestLimit then return tree else throw .nestedTooDeeply

end OrderedLexer.Regex
