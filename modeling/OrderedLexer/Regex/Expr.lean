import OrderedLexer.Unicode.CharSet

/-!
# Expressions

An `Expr` is a pattern with its flags and names resolved: classes are sets of characters.

`ofClass`, `ofConcat`, `ofAlternation` and `ofRepetition` build expressions in a reduced form.
Which of several empty repetitions is preferred depends on this form, so it is part of what a
pattern means:

* neighbouring literals are joined, concatenations and alternations are flat;
* alternatives that are all single characters, or all classes, are one class;
* a concatenation that all alternatives start with is taken out in front of them.
-/

namespace OrderedLexer.Regex

/-- What a word assertion asks of the characters before and after it. -/
inductive WordTest where
  | boundary
  | noBoundary
  | start
  | finish
  | startHalf
  | finishHalf
deriving DecidableEq

/-- An assertion about the characters before and after a position. -/
inductive Look where
  | textStart
  | textEnd
  | lineStart
  | lineEnd
  | lineStartCrlf
  | lineEndCrlf
  | word (test : WordTest) (unicode : Bool)
deriving DecidableEq

inductive Expr where
  | empty
  | literal (text : List Char)
  | cls (set : CharSet)
  | look (l : Look)
  | repetition (min : Nat) (max : Option Nat) (greedy : Bool) (sub : Expr)
  | capture (index : Nat) (sub : Expr)
  | concat (items : List Expr)
  | alternation (items : List Expr)
deriving BEq

namespace Expr

/-! ### Lengths -/

/-- The sum of two numbers of which both are known. -/
def addKnown : Option Nat → Option Nat → Option Nat
  | some a, some b => some (a + b)
  | _, _ => none

mutual

/-- The length of the shortest match, if it is known. A class without characters has none. -/
def minLength? : Expr → Option Nat
  | .empty | .look _ => some 0
  | .literal text => some text.length
  | .cls set => if set.isEmpty then none else some 1
  | .repetition min _ _ sub => sub.minLength?.map (· * min)
  | .capture _ sub => sub.minLength?
  | .concat items => minLengthOfConcat? items
  | .alternation items => minLengthOfAlternation? items

def minLengthOfConcat? : List Expr → Option Nat
  | [] => some 0
  | item :: rest => addKnown item.minLength? (minLengthOfConcat? rest)

def minLengthOfAlternation? : List Expr → Option Nat
  | [] => none
  | [item] => item.minLength?
  | item :: rest =>
    match item.minLength?, minLengthOfAlternation? rest with
    | some a, some b => some (min a b)
    | _, _ => none

end

mutual

/-- Whether an expression is known to match nothing but the empty text. -/
def isBlank : Expr → Bool
  | .empty | .look _ => true
  | .literal text => text.isEmpty
  | .cls _ => false
  | .repetition _ max _ sub => max.isSome && sub.isBlank
  | .capture _ sub => sub.isBlank
  | .concat items | .alternation items => allBlank items

def allBlank : List Expr → Bool
  | [] => true
  | item :: rest => item.isBlank && allBlank rest

end

mutual

/-- The number of parts of an expression. -/
def size : Expr → Nat
  | .repetition _ _ _ sub | .capture _ sub => sub.size + 1
  | .concat items | .alternation items => sizeOfItems items + 1
  | _ => 1

def sizeOfItems : List Expr → Nat
  | [] => 0
  | item :: rest => item.size + sizeOfItems rest

end

/-! ### Reduced forms -/

/-- The expression for one character of a set. -/
def ofClass (set : CharSet) : Expr :=
  match set.singleton? with
  | some c => .literal [c]
  | none => .cls set

/-- Put an item in front of a flat concatenation. -/
def consItem (item : Expr) (items : List Expr) : List Expr :=
  match item, items with
  | .empty, items => items
  | .literal a, .literal b :: rest => .literal (a ++ b) :: rest
  | item, items => item :: items

/-- The items of a flat concatenation. -/
def flatItems (items : List Expr) : List Expr :=
  items.foldr (fun item rest =>
    match item with
    | .concat parts => parts.foldr consItem rest
    | item => consItem item rest) []

/-- The concatenation of expressions. -/
def ofConcat (items : List Expr) : Expr :=
  match flatItems items with
  | [] => .empty
  | [item] => item
  | items => .concat items

/-- The alternatives of a flat alternation. -/
def flatAlternatives (items : List Expr) : List Expr :=
  items.flatMap fun item =>
    match item with
    | .alternation parts => parts
    | item => [item]

/-- The set of the alternatives if each is a single character. -/
def singleChars? (items : List Expr) : Option CharSet :=
  (items.mapM fun (item : Expr) =>
    match item with
    | .literal [c] => some (c.toNat, c.toNat)
    | _ => none).map CharSet.ofRanges

/-- The union of the alternatives if each is a class. -/
def classes? (items : List Expr) : Option CharSet :=
  (items.mapM fun (item : Expr) =>
    match item with
    | .cls set => some set
    | _ => none).map CharSet.unions

/-- The longest common start of two lists. -/
def commonStart : List Expr → List Expr → List Expr
  | a :: as, b :: bs => if a == b then a :: commonStart as bs else []
  | _, _ => []

/-- The items of each alternative if each is a concatenation. -/
def concats? (items : List Expr) : Option (List (List Expr)) :=
  items.mapM fun (item : Expr) =>
    match item with
    | .concat parts => some parts
    | _ => none

/-- The common start of concatenations, if it is not empty, and what follows it in each. -/
def sharedStart? (items : List Expr) : Option (List Expr × List (List Expr)) :=
  match concats? items with
  | some (first :: rest) =>
    let shared := rest.foldl commonStart first
    if shared.isEmpty then none
    else some (shared, (first :: rest).map (·.drop shared.length))
  | _ => none

/-- The alternation of expressions; `fuel` bounds how often a common start is taken out. -/
def ofAlternationWithin : Nat → List Expr → Expr
  | 0, items => .alternation items
  | fuel + 1, items =>
    let items := flatAlternatives items
    match items with
    | [] => .cls CharSet.empty
    | [item] => item
    | items =>
      match singleChars? items with
      | some set => ofClass set
      | none => match classes? items with
        | some set => ofClass set
        | none => match sharedStart? items with
          | some (shared, rests) =>
            ofConcat (shared ++ [ofAlternationWithin fuel (rests.map ofConcat)])
          | none => .alternation items

/-- The alternation of expressions, the first preferred. -/
def ofAlternation (items : List Expr) : Expr := ofAlternationWithin (sizeOfItems items + 1) items

/-- The repetition of an expression. What matches only the empty text is repeated once at most. -/
def ofRepetition (min : Nat) (max : Option Nat) (greedy : Bool) (sub : Expr) : Expr :=
  let (min, max) := if sub.isBlank then (Nat.min min 1, some ((max.map (Nat.min 1)).getD 1))
    else (min, max)
  if min = 0 && max = some 0 then .empty
  else if min = 1 && max = some 1 then sub
  else .repetition min max greedy sub

end Expr
end OrderedLexer.Regex
