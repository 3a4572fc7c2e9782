import OrderedLexer.Regex.Expr
import OrderedLexer.Regex.Tree
import OrderedLexer.Unicode.CaseFolding

/-!
# What written patterns mean

`Expr.ofTree` resolves the flags and the names of a pattern. Texts are UTF-8, so a pattern that
could match a part of a character is refused.
-/

namespace OrderedLexer.Regex

open Unicode

/-- The flags in force at a place of a pattern. -/
structure Flags where
  ignoreCase : Bool := false
  multiLine : Bool := false
  dotMatchesLineFeed : Bool := false
  swapGreed : Bool := false
  unicode : Bool := true
  crlf : Bool := false

/-- Set or clear one flag. -/
def Flags.set (flags : Flags) : Flag × Bool → Flags
  | (.ignoreCase, on) => { flags with ignoreCase := on }
  | (.multiLine, on) => { flags with multiLine := on }
  | (.dotMatchesLineFeed, on) => { flags with dotMatchesLineFeed := on }
  | (.swapGreed, on) => { flags with swapGreed := on }
  | (.unicode, on) => { flags with unicode := on }
  | (.crlf, on) => { flags with crlf := on }
  | (.verbose, _) => flags

def Flags.apply (flags : Flags) (settings : List (Flag × Bool)) : Flags :=
  settings.foldl Flags.set flags

/-! ### Sets of characters -/

/-- The characters of a class written as a name between colons. -/
def AsciiClass.set : AsciiClass → CharSet
  | .alnum => ⟨[(0x30, 0x39), (0x41, 0x5A), (0x61, 0x7A)]⟩
  | .alpha => ⟨[(0x41, 0x5A), (0x61, 0x7A)]⟩
  | .ascii => ⟨[(0x0, 0x7F)]⟩
  | .blank => ⟨[(0x9, 0x9), (0x20, 0x20)]⟩
  | .cntrl => ⟨[(0x0, 0x1F), (0x7F, 0x7F)]⟩
  | .digit => ⟨[(0x30, 0x39)]⟩
  | .graph => ⟨[(0x21, 0x7E)]⟩
  | .lower => ⟨[(0x61, 0x7A)]⟩
  | .print => ⟨[(0x20, 0x7E)]⟩
  | .punct => ⟨[(0x21, 0x2F), (0x3A, 0x40), (0x5B, 0x60), (0x7B, 0x7E)]⟩
  | .space => ⟨[(0x9, 0xD), (0x20, 0x20)]⟩
  | .upper => ⟨[(0x41, 0x5A)]⟩
  | .word => ⟨[(0x30, 0x39), (0x41, 0x5A), (0x5F, 0x5F), (0x61, 0x7A)]⟩
  | .xdigit => ⟨[(0x30, 0x39), (0x41, 0x46), (0x61, 0x66)]⟩

/-- The characters of a class with a one-letter escape. -/
def ShortClass.set (unicode : Bool) : ShortClass → CharSet
  | .digit => if unicode then decimalDigits else AsciiClass.digit.set
  | .space => if unicode then whiteSpace else AsciiClass.space.set
  | .word => if unicode then wordChars else AsciiClass.word.set

/-- Close a set under case folding where case does not count. -/
def Flags.fold (flags : Flags) (set : CharSet) : CharSet :=
  if !flags.ignoreCase then set
  else if flags.unicode then foldCase set
  else foldAsciiCase set

/-- Refuse a set that holds parts of characters: without Unicode, whatever is not ASCII. -/
def Flags.check (flags : Flags) (set : CharSet) : Except Fault CharSet :=
  if flags.unicode || set.isAscii then .ok set else .error .notUtf8

/-- The set with its case variants, or the other characters. Folding comes before the complement. -/
def Flags.foldAndNegate (flags : Flags) (negated : Bool) (set : CharSet) : Except Fault CharSet :=
  let set := flags.fold set
  flags.check (if negated then set.compl else set)

/-- The set of a class with a one-letter escape, which is closed under case folding. -/
def Flags.shortSet (flags : Flags) (cls : ShortClass) (negated : Bool) : Except Fault CharSet :=
  let set := cls.set flags.unicode
  flags.check (if negated then set.compl else set)

/-- The set of a class with a property. -/
def Flags.propertySet (flags : Flags) (name : ClassName) (negated : Bool) :
    Except Fault CharSet :=
  if !flags.unicode then .error .unicodeNotAllowed
  else match classOf name with
    | .ok set => flags.foldAndNegate negated set
    | .error .unknownProperty => .error .propertyUnknown
    | .error .unknownValue => .error .propertyValueUnknown

/-- The code point of a literal outside brackets. -/
def Flags.literalChar (flags : Flags) (l : Literal) : Except Fault Char :=
  if !flags.unicode && l.byte && 0x7F < l.char.toNat then .error .notUtf8 else .ok l.char

/-- The code point of a literal inside brackets. -/
def Flags.bracketChar (flags : Flags) (l : Literal) : Except Fault Char := do
  let c ← flags.literalChar l
  if !flags.unicode && 0x7F < c.toNat then throw .unicodeNotAllowed
  return c

def SetOperator.apply : SetOperator → CharSet → CharSet → CharSet
  | .intersection => CharSet.inter
  | .difference => CharSet.diff
  | .symmetricDifference => CharSet.symmDiff

mutual

/-- The set that the body of a bracket stands for. -/
def Flags.bracketSet (flags : Flags) : Bracket → Except Fault CharSet
  | .literal l => do return CharSet.singleton (← flags.bracketChar l)
  | .range first last => do
    let a ← flags.bracketChar first
    let b ← flags.bracketChar last
    return CharSet.range a.toNat b.toNat
  | .ascii cls negated => flags.foldAndNegate negated cls.set
  | .short cls negated => flags.shortSet cls negated
  | .property name negated => flags.propertySet name negated
  | .nested negated body => do flags.foldAndNegate negated (← flags.bracketSet body)
  | .union items => flags.bracketUnion CharSet.empty items
  | .combine op left right => do
    let a ← flags.bracketSet left
    let b ← flags.bracketSet right
    return op.apply (flags.fold a) (flags.fold b)

/-- The union of `set` and the sets of the items. -/
def Flags.bracketUnion (flags : Flags) (set : CharSet) : List Bracket → Except Fault CharSet
  | [] => .ok set
  | item :: rest => do flags.bracketUnion (set.union (← flags.bracketSet item)) rest

end

/-! ### Expressions -/

/-- The expression of a literal. -/
def Flags.literalExpr (flags : Flags) (l : Literal) : Except Fault Expr := do
  let c ← flags.literalChar l
  let letter := if flags.unicode then hasCaseVariants c else c.isAlpha
  if flags.ignoreCase && letter then return Expr.ofClass (flags.fold (CharSet.singleton c))
  else return .literal [c]

/-- The characters that a dot stands for. -/
def Flags.dotSet (flags : Flags) : Except Fault CharSet :=
  if !flags.unicode then .error .notUtf8
  else if flags.dotMatchesLineFeed then .ok CharSet.univ
  else if flags.crlf then .ok (CharSet.ofRanges [(0xA, 0xA), (0xD, 0xD)]).compl
  else .ok (CharSet.range 0xA 0xA).compl

/-- The assertion that an anchor stands for. -/
def Flags.look (flags : Flags) : Anchor → Look
  | .startLine =>
    if !flags.multiLine then .textStart else if flags.crlf then .lineStartCrlf else .lineStart
  | .endLine => if !flags.multiLine then .textEnd else if flags.crlf then .lineEndCrlf else .lineEnd
  | .startText => .textStart
  | .endText => .textEnd
  | .wordBoundary => .word .boundary flags.unicode
  | .noWordBoundary => .word .noBoundary flags.unicode
  | .wordStart => .word .start flags.unicode
  | .wordEnd => .word .finish flags.unicode
  | .wordStartHalf => .word .startHalf flags.unicode
  | .wordEndHalf => .word .finishHalf flags.unicode

mutual

/-- The expression of a pattern, and the flags in force after it. -/
def Flags.expr (flags : Flags) : Tree → Except Fault (Expr × Flags)
  | .empty => .ok (.empty, flags)
  | .flags settings => .ok (.empty, flags.apply settings)
  | .literal l => do return (← flags.literalExpr l, flags)
  | .dot => do return (Expr.ofClass (← flags.dotSet), flags)
  | .anchor a => .ok (.look (flags.look a), flags)
  | .short cls negated => do return (Expr.ofClass (← flags.shortSet cls negated), flags)
  | .property name negated => do return (Expr.ofClass (← flags.propertySet name negated), flags)
  | .bracket negated body => do
    let set ← flags.bracketSet body
    return (Expr.ofClass (← flags.foldAndNegate negated set), flags)
  | .repetition min max greedy sub => do
    let (e, _) ← flags.expr sub
    return (Expr.ofRepetition min max (greedy != flags.swapGreed) e, flags)
  | .capture index sub => do
    let (e, _) ← flags.expr sub
    return (.capture index e, flags)
  | .group settings sub => do
    let (e, _) ← (flags.apply settings).expr sub
    return (e, flags)
  | .concat items => do
    let (es, flags) ← flags.exprs items
    return (Expr.ofConcat es, flags)
  | .alternation items => do
    let (es, flags) ← flags.exprs items
    return (Expr.ofAlternation es, flags)

/-- The expressions of patterns of which each starts with the flags that the one before it
    leaves. -/
def Flags.exprs (flags : Flags) : List Tree → Except Fault (List Expr × Flags)
  | [] => .ok ([], flags)
  | tree :: rest => do
    let (e, flags) ← flags.expr tree
    let (es, flags) ← flags.exprs rest
    return (e :: es, flags)

end

/-- The expression of a pattern. -/
def Expr.ofTree (tree : Tree) : Except Fault Expr := do return (← ({} : Flags).expr tree).1

end OrderedLexer.Regex
