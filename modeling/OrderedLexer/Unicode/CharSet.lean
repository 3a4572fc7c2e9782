/-!
# Sets of characters

A set of characters is a list of code point ranges.

* `CharSet.union` and `CharSet.compl` keep the ranges ascending, with a gap between any two; the
  other operations are built from these two.
* `CharSet.contains` walks the ranges and stops at the first that starts behind the character.
* `CharSet.ofHex` reads the notation of the property tables.

The code points from `D800` to `DFFF` are no characters. `codeAfter` and `codeBefore` step over
them, so `D7FF` and `E000` count as neighbours.
-/

namespace OrderedLexer

/-- A set of characters, as ascending ranges of code points of which no two touch. -/
structure CharSet where
  ranges : List (Nat × Nat)
deriving DecidableEq, Inhabited

namespace CharSet

/-- The last code point. -/
def lastCode : Nat := 0x10FFFF

/-- The code point of the next character. -/
def codeAfter (n : Nat) : Nat := if n = 0xD7FF then 0xE000 else n + 1

/-- The code point of the previous character. -/
def codeBefore (n : Nat) : Nat := if n = 0xE000 then 0xD7FF else n - 1

def empty : CharSet := ⟨[]⟩

/-- All characters. -/
def univ : CharSet := ⟨[(0, lastCode)]⟩

/-- Whether the code point `n` lies in one of the ascending ranges. -/
def covers : List (Nat × Nat) → Nat → Bool
  | [], _ => false
  | (lo, hi) :: rest, n => if n < lo then false else n ≤ hi || covers rest n

/-- Whether the set holds a character. -/
def contains (s : CharSet) (c : Char) : Bool := covers s.ranges c.toNat

def isEmpty (s : CharSet) : Bool := s.ranges.isEmpty

/-- Whether all characters of the set are below `80`. -/
def isAscii (s : CharSet) : Bool := s.ranges.all (·.2 ≤ 0x7F)

/-- The character of a set of one. -/
def singleton? (s : CharSet) : Option Char :=
  match s.ranges with
  | [(lo, hi)] => if lo = hi then some (Char.ofNat lo) else none
  | _ => none

/-! ### Union -/

/-- Merge two ascending lists of ranges by their starts; `fuel` bounds the number of ranges. -/
def weave : Nat → List (Nat × Nat) → List (Nat × Nat) → List (Nat × Nat)
  | 0, _, _ => []
  | _ + 1, [], t => t
  | _ + 1, s, [] => s
  | fuel + 1, x :: s, y :: t =>
    if x.1 ≤ y.1 then x :: weave fuel s (y :: t) else y :: weave fuel (x :: s) t

/-- Join the range from `lo` to `hi` with those of the following ranges that it meets or touches,
    and so on to the end of the list. -/
def joinTouching (lo hi : Nat) : List (Nat × Nat) → List (Nat × Nat)
  | [] => [(lo, hi)]
  | (a, b) :: rest =>
    if a ≤ codeAfter hi then joinTouching lo (max hi b) rest else (lo, hi) :: joinTouching a b rest

def union (s t : CharSet) : CharSet :=
  match weave (s.ranges.length + t.ranges.length) s.ranges t.ranges with
  | [] => empty
  | (lo, hi) :: rest => ⟨joinTouching lo hi rest⟩

/-- The characters from code point `lo` to code point `hi`. -/
def range (lo hi : Nat) : CharSet := ⟨[(lo, hi)]⟩

/-- The set of one character. -/
def singleton (c : Char) : CharSet := range c.toNat c.toNat

/-- The set of the characters of the given ranges, which may come in any order and overlap. -/
def ofRanges (ranges : List (Nat × Nat)) : CharSet :=
  ranges.foldl (fun s r => s.union (range r.1 r.2)) empty

/-- The union of all the given sets. -/
def unions (sets : List CharSet) : CharSet := sets.foldl union empty

/-! ### Complement and what is built from it -/

/-- The gaps between ascending ranges, from `lo` on. -/
def gaps (lo : Nat) : List (Nat × Nat) → List (Nat × Nat)
  | [] => if lo ≤ lastCode then [(lo, lastCode)] else []
  | (a, b) :: rest =>
    if lo < a then (lo, codeBefore a) :: gaps (codeAfter b) rest else gaps (codeAfter b) rest

/-- The characters that the set does not hold. -/
def compl (s : CharSet) : CharSet := ⟨gaps 0 s.ranges⟩

def diff (s t : CharSet) : CharSet := (s.compl.union t).compl

def inter (s t : CharSet) : CharSet := s.diff t.compl

/-- The characters that exactly one of the two sets holds. -/
def symmDiff (s t : CharSet) : CharSet := (s.diff t).union (t.diff s)

/-! ### The notation of the tables -/

/-- The value of an upper-case hexadecimal digit. -/
def hexDigit (c : Char) : Nat := if c ≤ '9' then c.toNat - 48 else c.toNat - 55

/-- What has been read of a table: the finished ranges, last first, the start of the range under
    way, and the number under way. -/
structure HexState where
  done : List (Nat × Nat) := []
  start : Option Nat := none
  number : Option Nat := none

/-- Finish the range under way, if there is one. -/
def HexState.close (s : HexState) : List (Nat × Nat) :=
  match s.number with
  | some n => (s.start.getD n, n) :: s.done
  | none => s.done

def HexState.step (s : HexState) (c : Char) : HexState :=
  if c = ' ' || c = '\n' then ⟨s.close, none, none⟩
  else if c = '-' then ⟨s.done, s.number, none⟩
  else ⟨s.done, s.start, some (s.number.getD 0 * 16 + hexDigit c)⟩

/-- Read ascending ranges in hexadecimal, such as `41-5A 5F`, with blanks or line feeds between. -/
def ofHex (text : String) : CharSet := ⟨(text.toList.foldl HexState.step {}).close.reverse⟩

end CharSet
end OrderedLexer
