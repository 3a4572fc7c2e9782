/-!
# Byte positions in texts

Texts are lists of characters; positions count the bytes of their UTF-8 form.

* `byteLength` measures a text, `dropBytes?` cuts it at a position.
* `dropBytes?_append`: a position after whole characters cuts there.
* `dropBytes?_eq_some`: where a text can be cut, the position is the length of what is cut off.
-/

namespace OrderedLexer.Text

/-- The number of bytes of a text. -/
def byteLength : List Char → Nat
  | [] => 0
  | c :: cs => c.utf8Size + byteLength cs

@[simp] theorem byteLength_nil : byteLength [] = 0 := rfl

@[simp] theorem byteLength_cons (c : Char) (cs : List Char) :
    byteLength (c :: cs) = c.utf8Size + byteLength cs := rfl

@[simp] theorem byteLength_append (a b : List Char) :
    byteLength (a ++ b) = byteLength a + byteLength b := by
  induction a with
  | nil => simp
  | cons c a ih => simp [ih, Nat.add_assoc]

@[simp] theorem byteLength_reverse (a : List Char) : byteLength a.reverse = byteLength a := by
  induction a with
  | nil => rfl
  | cons c a ih => simp [ih, Nat.add_comm]

theorem byteLength_eq_zero {cs : List Char} : byteLength cs = 0 ↔ cs = [] := by
  cases cs with
  | nil => simp
  | cons c cs => simp [Nat.ne_of_gt (Char.utf8Size_pos c)]

/-- What is left of a text after the first `n` bytes; `none` behind its end and inside a
    character. -/
def dropBytes? : Nat → List Char → Option (List Char)
  | 0, cs => some cs
  | _ + 1, [] => none
  | n + 1, c :: cs => if c.utf8Size ≤ n + 1 then dropBytes? (n + 1 - c.utf8Size) cs else none

@[simp] theorem dropBytes?_zero (cs : List Char) : dropBytes? 0 cs = some cs := by
  cases cs <;> simp [dropBytes?]

theorem dropBytes?_cons {n : Nat} (h : n ≠ 0) (c : Char) (cs : List Char) :
    dropBytes? n (c :: cs) =
      if c.utf8Size ≤ n then dropBytes? (n - c.utf8Size) cs else none := by
  cases n with
  | zero => contradiction
  | succ n => rfl

theorem dropBytes?_append (a b : List Char) : dropBytes? (byteLength a) (a ++ b) = some b := by
  induction a with
  | nil => simp
  | cons c a ih =>
    have hc := Char.utf8Size_pos c
    rw [List.cons_append, dropBytes?_cons (by simp; omega)]
    simpa using ih

theorem dropBytes?_eq_some {n : Nat} {cs rest : List Char} (h : dropBytes? n cs = some rest) :
    ∃ a, cs = a ++ rest ∧ byteLength a = n := by
  induction cs generalizing n with
  | nil =>
    cases n with
    | zero => exact ⟨[], by simpa using h, rfl⟩
    | succ n => simp [dropBytes?] at h
  | cons c cs ih =>
    by_cases hn : n = 0
    · subst hn
      exact ⟨[], by simpa using h, rfl⟩
    · rw [dropBytes?_cons hn] at h
      split at h
      · obtain ⟨a, rfl, ha⟩ := ih h
        exact ⟨c :: a, rfl, by simp [ha]; omega⟩
      · contradiction

/-- The number of characters in the first `n` bytes; `none` behind the end and inside a
    character. -/
def charCount? : Nat → List Char → Option Nat
  | 0, _ => some 0
  | _ + 1, [] => none
  | n + 1, c :: cs =>
    if c.utf8Size ≤ n + 1 then (charCount? (n + 1 - c.utf8Size) cs).map (· + 1) else none

end OrderedLexer.Text
