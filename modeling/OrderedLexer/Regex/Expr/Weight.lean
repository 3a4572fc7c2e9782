import OrderedLexer.Regex.Expr
import OrderedLexer.Regex.Fault
import OrderedLexer.Text.Bytes
import Std.Data.HashMap

/-!
# How big a compiled pattern is

The size of a pattern is that of an automaton over bytes, forwards and backwards. `Expr.fits` says
whether both stay within `sizeLimit`; counts of repetitions multiply, so nothing is built for it.

* A state takes 32 bytes, a range of bytes 8, a choice 4.
* Forwards, a class shares the states of equal continuations; backwards, those of equal beginnings.
-/

namespace OrderedLexer.Regex

/-- A range of bytes. -/
abbrev ByteRange := Nat × Nat

/-! ### Classes as byte sequences -/

/-- The sequences of byte ranges for the numbers from `lo` to `hi`, written with a leading byte
    offset by `lead` and `k` continuation bytes. -/
def byteSequences (lead : Nat) : Nat → Nat → Nat → List (List ByteRange)
  | 0, lo, hi => [[(lead + lo, lead + hi)]]
  | k + 1, lo, hi =>
    let m := Nat.pow 64 (k + 1)
    let inner (top a b : Nat) : List (List ByteRange) :=
      (byteSequences 0x80 k a b).map ((lead + top, lead + top) :: ·)
    let (first, last) := (lo / m, hi / m)
    if first = last then inner first (lo % m) (hi % m)
    else
      let (start, front) :=
        if lo % m = 0 then (first, []) else (first + 1, inner first (lo % m) (m - 1))
      let (stop, back) :=
        if hi % m = m - 1 then (last + 1, []) else (last, inner last 0 (hi % m))
      let middle := if start < stop then
          (byteSequences 0x80 k 0 (m - 1)).map ((lead + start, lead + stop - 1) :: ·)
        else []
      front ++ middle ++ back

/-- The part of a range of numbers that lies between two others. -/
def clip (lo hi a b : Nat) : Option (Nat × Nat) :=
  if max lo a ≤ min hi b then some (max lo a, min hi b) else none

/-- The byte sequences of a range of code points. -/
def rangeSequences (lo hi : Nat) : List (List ByteRange) :=
  [(0x0, 0x7F, 0x0, 0), (0x80, 0x7FF, 0xC0, 1), (0x800, 0xD7FF, 0xE0, 2),
    (0xE000, 0xFFFF, 0xE0, 2), (0x10000, 0x10FFFF, 0xF0, 3)].flatMap fun (a, b, lead, k) =>
      match clip lo hi a b with
      | some (lo, hi) => byteSequences lead k lo hi
      | none => []

/-- The byte sequences of a set, in ascending order. -/
def classSequences (set : CharSet) : List (List ByteRange) :=
  set.ranges.flatMap fun (lo, hi) => rangeSequences lo hi

/-- Group sequences by their first range. -/
def byFirst (seqs : List (List ByteRange)) : List (ByteRange × List (List ByteRange)) :=
  seqs.foldr (fun seq groups =>
    match seq, groups with
    | [], _ => groups
    | r :: tail, (first, tails) :: rest =>
      if r = first then (first, tail :: tails) :: rest else (r, [tail]) :: groups
    | r :: tail, [] => [(r, [tail])]) []

/-- The states of a class with the ranges that leave them, each with a number. -/
abbrev States := Std.HashMap (List (Nat × Nat × Nat)) Nat

/-- The number of the state from which the sequences are read; equal states are one. State 0 is the
    end. `fuel` bounds the length of the sequences. -/
def shareStates : Nat → List (List ByteRange) → States → Nat × States
  | 0, _, states => (0, states)
  | fuel + 1, seqs, states =>
    let groups := byFirst seqs
    if groups.isEmpty then (0, states)
    else
      let (edges, states) := groups.foldl (fun (edges, states) ((lo, hi), tails) =>
        let (n, states) := shareStates fuel tails states
        ((lo, hi, n) :: edges, states)) ([], states)
      match states[edges]? with
      | some n => (n, states)
      | none => (states.size + 1, states.insert edges (states.size + 1))

/-- The number of distinct non-empty beginnings of the sequences; `fuel` bounds their length. -/
def countBeginnings : Nat → List (List ByteRange) → Nat
  | 0, _ => 0
  | fuel + 1, seqs =>
    (byFirst seqs).foldl (fun n (_, tails) => n + 1 + countBeginnings fuel tails) 0

def asciiWeight (set : CharSet) : Nat := 64 + 8 * set.ranges.length

def forwardClassWeight (set : CharSet) : Nat :=
  if set.isAscii then asciiWeight set
  else
    let (_, states) := shareStates 5 (classSequences set) {}
    states.fold (fun n edges _ => n + 32 + 8 * edges.length) 32

def backwardClassWeight (set : CharSet) : Nat :=
  if set.isAscii then asciiWeight set
  else
    let seqs := classSequences set
    64 + 4 * seqs.length + 32 * countBeginnings 5 seqs

/-- More than any class of so many ranges weighs. -/
def roughClassWeight (set : CharSet) : Nat := 64 + 4800 * set.ranges.length

/-! ### Expressions -/

/-- The weight of a repetition of something that weighs `sub`. -/
def repetitionWeight (mayBeEmpty : Bool) (min : Nat) (max : Option Nat) (sub : Nat) : Nat :=
  match min, max with
  | 0, none => if mayBeEmpty then sub + 112 else sub + 40
  | n, none => n * sub + 40
  | 0, some 1 => sub + 72
  | n, some m =>
    (if n = 0 then 32 else n * sub) + if n = m then 0 else 32 + (m - n) * (sub + 40)

mutual

/-- The weight of an expression, given those of a class and of a capturing group. -/
def Expr.weight (cls : CharSet → Nat) (capture : Nat) : Expr → Nat
  | .empty | .look _ => 32
  | .literal text => 32 * Text.byteLength text
  | .cls set => cls set
  | .repetition min max _ sub =>
    repetitionWeight (!sub.minLength?.any (0 < ·)) min max (sub.weight cls capture)
  | .capture _ sub => sub.weight cls capture + capture
  | .concat items => weightOfItems cls capture items
  | .alternation items => weightOfItems cls capture items + 64 + 4 * items.length

def weightOfItems (cls : CharSet → Nat) (capture : Nat) : List Expr → Nat
  | [] => 0
  | item :: rest => item.weight cls capture + weightOfItems cls capture rest

end

/-- What the automaton needs besides the expression. -/
def frameWeight : Nat := 208

/-- Whether the compiled pattern stays within the limit. The exact weights are computed only where a
    rough bound does not decide. -/
def Expr.fits (e : Expr) : Bool :=
  e.weight roughClassWeight 64 + frameWeight ≤ sizeLimit ||
    (e.weight forwardClassWeight 64 + frameWeight ≤ sizeLimit &&
      e.weight backwardClassWeight 0 + frameWeight ≤ sizeLimit)

end OrderedLexer.Regex
