/-!
# The shortest decimal of a binary number

`shortest mantissa exponent` gives the fewest digits, with the position of the decimal point, that
read back as the double `mantissa · 2 ^ exponent`; of several such numbers, the one nearest to it.
All is computed with natural numbers.
-/

namespace OrderedLexer.Decimal

/-- The decimal number `digits · 10 ^ exponent`. -/
structure Numeral where
  digits : Nat
  exponent : Int
deriving DecidableEq

/-- The positive real numbers that round to a double, as multiples of a common unit `1 / unit`. -/
structure Interval where
  low : Nat
  value : Nat
  high : Nat
  unit : Nat
  /-- Whether the ends belong to the interval. -/
  closed : Bool

/-- The interval of a double with a given mantissa and binary exponent. The gap below a power of two
    is half as wide, unless the exponent is the least. -/
def Interval.ofBinary (mantissa : Nat) (exponent : Int) : Interval :=
  let narrow := mantissa = 0x10000000000000 && exponent != -1074
  let scale := 1 <<< exponent.toNat
  let unit := 4 <<< (-exponent).toNat
  ⟨(4 * mantissa - if narrow then 1 else 2) * scale, 4 * mantissa * scale,
    (4 * mantissa + 2) * scale, unit, mantissa % 2 = 0⟩

/-- The multiple of `10 ^ e` that lies in the interval next to its value, if there is one. -/
def Interval.gridPoint? (i : Interval) (e : Int) : Option Nat :=
  let num := Nat.pow 10 e.toNat
  let den := Nat.pow 10 (-e).toNat
  -- the multiple `k` stands for `k * num / den`, to be compared with `value / unit`
  let inside (k : Nat) : Bool :=
    let x := k * num * i.unit
    let low := i.low * den
    let high := i.high * den
    if i.closed then low ≤ x && x ≤ high else low < x && x < high
  let below := i.value * den / (num * i.unit)
  let above := below + 1
  let rest := i.value * den - below * num * i.unit
  let nearBelow := 2 * rest < num * i.unit || (2 * rest = num * i.unit && below % 2 = 0)
  match inside below && below != 0, inside above with
  | true, true => some (if nearBelow then below else above)
  | true, false => some below
  | false, true => some above
  | false, false => none

/-- The coarsest grid point in the interval, tried from exponent `e` downwards; `fuel` bounds the
    number of grids. -/
def Interval.coarsest (i : Interval) : Nat → Int → Numeral
  | 0, e => ⟨0, e⟩
  | fuel + 1, e =>
    match i.gridPoint? e with
    | some k => ⟨k, e⟩
    | none => i.coarsest fuel (e - 1)

/-- Move zeros at the end of the digits into the exponent; `fuel` bounds their number. -/
def Numeral.trim : Nat → Numeral → Numeral
  | 0, d => d
  | fuel + 1, d =>
    if d.digits != 0 && d.digits % 10 = 0 then trim fuel ⟨d.digits / 10, d.exponent + 1⟩ else d

/-- The shortest decimal that reads back as a positive double. -/
def shortest (mantissa : Nat) (exponent : Int) : Numeral :=
  Numeral.trim 400 ((Interval.ofBinary mantissa exponent).coarsest 700 310)

/-- The mantissa and the binary exponent of a finite double with the given bits. -/
def binaryParts (bits : UInt64) : Nat × Int :=
  let hidden := 0x10000000000000
  let fraction := bits.toNat % hidden
  let biased := bits.toNat / hidden % 0x800
  if biased = 0 then (fraction, -1074) else (fraction + hidden, Int.ofNat biased - 1075)

end OrderedLexer.Decimal
