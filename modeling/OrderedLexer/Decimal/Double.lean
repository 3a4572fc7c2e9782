import OrderedLexer.Decimal.Shortest

/-!
# Doubles in words

* `scale?` gives the double that a significand and a decimal exponent stand for, computed by one
  multiplication or by divisions; there is none beyond the greatest.
* `doubleText` writes a double with the fewest digits. Exponents are used from `10 ^ 16` on and
  below `10 ^ -5`; a point always stands in a number without one.
-/

namespace OrderedLexer.Decimal

/-- The power of ten with the given exponent. -/
def powerOfTen (n : Nat) : Float := Float.ofScientific 1 false n

/-- Divide by powers of ten; `fuel` bounds the number of divisions. -/
def divideBy (x : Float) : Nat → Nat → Float
  | 0, _ => x
  | fuel + 1, n =>
    if n ≤ 308 then x / powerOfTen n
    else if x == 0 then x
    else divideBy (x / powerOfTen 308) fuel (n - 308)

/-- The double for `significand · 10 ^ exponent`, if it is finite. -/
def scale? (significand : UInt64) (exponent : Int) : Option Float :=
  let x := significand.toFloat
  if exponent < 0 then some (divideBy x ((-exponent).toNat / 308 + 1) (-exponent).toNat)
  else if exponent ≤ 308 then
    let y := x * powerOfTen exponent.toNat
    if y.isInf then none else some y
  else if x == 0 then some x
  else none

/-- At least two digits for a number below 1000. -/
def twoDigits (n : Nat) : String := if n < 10 then "0" ++ toString n else toString n

/-- A decimal with a point, or with an exponent if the point stands far away. -/
def decimalText (d : Numeral) : String :=
  let ds := Nat.toDigits 10 d.digits
  let zeros (n : Nat) : List Char := List.replicate n '0'
  let point : Int := ds.length + d.exponent
  if 0 ≤ d.exponent && point ≤ 16 then String.ofList (ds ++ zeros d.exponent.toNat ++ ['.', '0'])
  else if 0 < point && point ≤ 16 then
    String.ofList (ds.take point.toNat ++ '.' :: ds.drop point.toNat)
  else if -5 < point && point ≤ 0 then
    String.ofList ('0' :: '.' :: zeros (-point).toNat ++ ds)
  else
    let head := match ds with
      | [d] => [d]
      | d :: rest => d :: '.' :: rest
      | [] => []
    let e := point - 1
    String.ofList head ++ (if e < 0 then "e-" else "e+") ++ twoDigits e.natAbs

/-- The text of a finite double. -/
def doubleText (negative : Bool) (x : Float) : String :=
  let (mantissa, exponent) := binaryParts x.toBits
  (if negative then "-" else "") ++
    if mantissa = 0 then "0.0" else decimalText (shortest mantissa exponent)

end OrderedLexer.Decimal
