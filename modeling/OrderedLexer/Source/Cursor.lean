import OrderedLexer.Source.Location

/-!
# Cursors

A `Cursor` stands between two characters of a named text. It keeps the characters that it has passed
and those ahead, so it never stands inside a character.

* `Cursor.advanceBy` passes characters; every other movement is made of it.
* `Cursor.moveTo` goes to a position, and stops at the end.
* `Cursor.shift` passes bytes. The sum of position and bytes is a machine word, so it may wrap.
-/

namespace OrderedLexer

/-- A position in a named text. -/
structure Cursor where
  /-- The name of the text. -/
  origin : String
  /-- The characters passed, the last one first. -/
  passed : List Char
  /-- The characters ahead. -/
  ahead : List Char
deriving DecidableEq

namespace Cursor

/-- The cursor at the start of a text. -/
def ofText (origin text : String) : Cursor := ⟨origin, [], text.toList⟩

/-! ### Views -/

/-- The whole text. -/
def text (c : Cursor) : List Char := c.passed.reverse ++ c.ahead

/-- The number of bytes passed. -/
def pos (c : Cursor) : Nat := Text.byteLength c.passed

/-- The next character; none at the end. -/
def get? (c : Cursor) : Option Char := c.ahead.head?

/-- The text ahead. -/
def peek (c : Cursor) : String := String.ofList c.ahead

def isExhausted (c : Cursor) : Bool := c.ahead.isEmpty

/-- Whether the text ahead starts with `keyword`. -/
def continues (c : Cursor) (keyword : String) : Bool := keyword.toList.isPrefixOf c.ahead

def lineIndex (c : Cursor) : LineIndex := LineIndex.ofText c.origin c.text

/-- The empty location at the cursor. -/
def location (c : Cursor) : Location := c.lineIndex.point c.pos

/-! ### Movements -/

/-- Pass `n` characters, or all that are left. -/
def advanceBy (c : Cursor) (n : Nat) : Cursor :=
  ⟨c.origin, (c.ahead.take n).reverse ++ c.passed, c.ahead.drop n⟩

/-- Pass one character. -/
def advance (c : Cursor) : Cursor := c.advanceBy 1

/-- The number of characters that start in the first `n` bytes of a text. -/
def charsWithin : Nat → List Char → Nat
  | 0, _ => 0
  | _ + 1, [] => 0
  | n + 1, c :: cs => charsWithin (n + 1 - c.utf8Size) cs + 1

/-- Go to a position in the text, or to its end if that comes before. The position is meant to lie
    between two characters; a character that starts before it is passed whole. -/
def moveTo (c : Cursor) (pos : Nat) : Cursor :=
  advanceBy ⟨c.origin, [], c.text⟩ (charsWithin pos c.text)

/-- The number of values of a machine word, in which positions are kept. -/
def wordSize : Nat := UInt64.size

/-- Pass `n` bytes, or all that are left. Nothing keeps the sum from wrapping. -/
def shift (c : Cursor) (n : Nat) : Cursor := c.moveTo ((c.pos + n) % wordSize)

/-- Pass the characters ahead for as long as they satisfy `p`. -/
def skipWhile (c : Cursor) (p : Char → Bool) : Cursor := c.advanceBy (c.ahead.takeWhile p).length

/-- Pass `keyword` if it is next. -/
def skip? (c : Cursor) (keyword : String) : Option Cursor :=
  if c.continues keyword then some (c.advanceBy keyword.toList.length) else none

/-! ### What lies ahead after a movement -/

@[simp] theorem ahead_advanceBy (c : Cursor) (n : Nat) :
    (c.advanceBy n).ahead = c.ahead.drop n := rfl

@[simp] theorem ahead_skipWhile (c : Cursor) (p : Char → Bool) :
    (c.skipWhile p).ahead = c.ahead.dropWhile p := by
  have h : ∀ cs : List Char, cs.drop (cs.takeWhile p).length = cs.dropWhile p := by
    intro cs
    induction cs with
    | nil => rfl
    | cons x cs ih => by_cases hx : p x <;> simp [List.takeWhile, List.dropWhile, hx, ih]
  exact h c.ahead

theorem length_ahead_skipWhile (c : Cursor) (p : Char → Bool) :
    (c.skipWhile p).ahead.length ≤ c.ahead.length := by
  simpa using (List.dropWhile_sublist p).length_le

/-- What is passed was ahead. -/
theorem ahead_eq_of_skip? {c c' : Cursor} {keyword : String} (h : c.skip? keyword = some c') :
    c.ahead = keyword.toList ++ c'.ahead := by
  by_cases hp : c.continues keyword
  · obtain ⟨rest, hrest⟩ := List.isPrefixOf_iff_prefix.1 hp
    rw [skip?, if_pos hp] at h
    simp [← Option.some.inj h, ← hrest]
  · simp [skip?, hp] at h

end Cursor
end OrderedLexer
