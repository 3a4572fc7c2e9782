import OrderedLexer.Regex.Fault
import OrderedLexer.Unicode.Property

/-!
# Patterns as they are written

* `Tree` keeps a pattern as it is written: flags where they stand, classes by name, counts as given.
* `Bracket` is what stands between square brackets.
* `Tree.depth` counts the expressions inside one another; `nestLimit` bounds it.
-/

namespace OrderedLexer.Regex

open Unicode (ClassName)

/-- The flags that `(?…)` sets and clears. -/
inductive Flag where
  | ignoreCase
  | multiLine
  | dotMatchesLineFeed
  | swapGreed
  | unicode
  | crlf
  | verbose
deriving DecidableEq

/-- The classes with a one-letter escape. -/
inductive ShortClass where
  | digit
  | space
  | word
deriving DecidableEq

/-- The classes written as a name between colons. -/
inductive AsciiClass where
  | alnum | alpha | ascii | blank | cntrl | digit | graph | lower | print | punct | space | upper
  | word | xdigit
deriving DecidableEq

/-- The operators between sets of characters. -/
inductive SetOperator where
  | intersection
  | difference
  | symmetricDifference
deriving DecidableEq

/-- The assertions that consume nothing. -/
inductive Anchor where
  | startLine | endLine
  | startText | endText
  | wordBoundary | noWordBoundary
  | wordStart | wordEnd
  | wordStartHalf | wordEndHalf
deriving DecidableEq

/-- A character of a pattern. It is a byte if it is written with exactly two hexadecimal digits. -/
structure Literal where
  char : Char
  byte : Bool := false
deriving DecidableEq

/-- What stands between square brackets. A union has no item or at least two. -/
inductive Bracket where
  | literal (l : Literal)
  | range (first last : Literal)
  | ascii (cls : AsciiClass) (negated : Bool)
  | short (cls : ShortClass) (negated : Bool)
  | property (name : ClassName) (negated : Bool)
  | nested (negated : Bool) (body : Bracket)
  | union (items : List Bracket)
  | combine (op : SetOperator) (left right : Bracket)

/-- A pattern as it is written. A concatenation or an alternation has at least two items. -/
inductive Tree where
  | empty
  | flags (settings : List (Flag × Bool))
  | literal (l : Literal)
  | dot
  | anchor (a : Anchor)
  | short (cls : ShortClass) (negated : Bool)
  | property (name : ClassName) (negated : Bool)
  | bracket (negated : Bool) (body : Bracket)
  | repetition (min : Nat) (max : Option Nat) (greedy : Bool) (sub : Tree)
  | capture (index : Nat) (sub : Tree)
  | group (settings : List (Flag × Bool)) (sub : Tree)
  | concat (items : List Tree)
  | alternation (items : List Tree)

/-- The union of the items, which is the item itself if there is only one. -/
def Bracket.ofItems : List Bracket → Bracket
  | [item] => item
  | items => .union items

/-- The concatenation of the items, which is the item itself if there is only one. -/
def Tree.ofConcat : List Tree → Tree
  | [] => .empty
  | [item] => item
  | items => .concat items

/-- The alternation of the items, which is the item itself if there is only one. -/
def Tree.ofAlternation : List Tree → Tree
  | [item] => item
  | items => .alternation items

/-! ### Nesting -/

mutual

/-- How deeply the parts of a bracket are nested. -/
def Bracket.depth : Bracket → Nat
  | .nested _ body => body.depth + 1
  | .union items => if items.isEmpty then 0 else depthOfBrackets items + 1
  | .combine _ left right => max left.depth right.depth + 1
  | _ => 0

def depthOfBrackets : List Bracket → Nat
  | [] => 0
  | item :: rest => max item.depth (depthOfBrackets rest)

end

mutual

/-- How deeply the parts of a pattern are nested. -/
def Tree.depth : Tree → Nat
  | .bracket _ body => body.depth + 1
  | .repetition _ _ _ sub | .capture _ sub | .group _ sub => sub.depth + 1
  | .concat items | .alternation items => depthOfTrees items + 1
  | _ => 0

def depthOfTrees : List Tree → Nat
  | [] => 0
  | item :: rest => max item.depth (depthOfTrees rest)

end

end OrderedLexer.Regex
