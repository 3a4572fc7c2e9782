/-!
# Keys of orders

An `OrderKey` is a 32-bit signed number. `OrderKey.next` stops at the greatest one.
-/

namespace OrderedLexer

/-- The key of an order. Orders are tried in ascending order of their keys. -/
structure OrderKey where
  val : Int
  inRange : -0x80000000 ≤ val ∧ val < 0x80000000
deriving DecidableEq

namespace OrderKey

@[ext] theorem ext {a b : OrderKey} (h : a.val = b.val) : a = b := by
  cases a; cases b; simp_all

instance : LE OrderKey := ⟨fun a b => a.val ≤ b.val⟩
instance : LT OrderKey := ⟨fun a b => a.val < b.val⟩

theorem le_def {a b : OrderKey} : a ≤ b ↔ a.val ≤ b.val := Iff.rfl
theorem lt_def {a b : OrderKey} : a < b ↔ a.val < b.val := Iff.rfl

instance (a b : OrderKey) : Decidable (a ≤ b) := inferInstanceAs (Decidable (a.val ≤ b.val))
instance (a b : OrderKey) : Decidable (a < b) := inferInstanceAs (Decidable (a.val < b.val))

def zero : OrderKey := ⟨0, by decide⟩

instance : Inhabited OrderKey := ⟨zero⟩

/-- The key with the given value, if it is in range. -/
def ofInt? (n : Int) : Option OrderKey :=
  if h : -0x80000000 ≤ n ∧ n < 0x80000000 then some ⟨n, h⟩ else none

/-- The next key; the greatest key is followed by itself. -/
def next (k : OrderKey) : OrderKey :=
  if h : k.val + 1 < 0x80000000 then ⟨k.val + 1, by have := k.inRange; omega⟩ else k

theorem le_next (k : OrderKey) : k ≤ k.next := by
  rw [le_def]
  unfold next
  split
  · show k.val ≤ k.val + 1
    omega
  · exact Int.le_refl _

def display (k : OrderKey) : String := toString k.val

end OrderKey
end OrderedLexer
