import Formwright.Number.Double

/-!
The fewest decimal digits that read back to a given magnitude, and of those the
nearest. The reals that round to a magnitude fill an interval whose ends belong
to it exactly when the mantissa is even; below a power of two the gap is half as
wide. For each count of digits only the two neighbours of the magnitude on that
decimal grid can be nearest, so only they are tried.
-/

namespace Formwright

/-- The number `digits * 10 ^ exponent`. -/
structure Decimal where
  digits : Nat
  exponent : Int
  deriving DecidableEq, Repr

namespace Magnitude

/-- Whether the gap to the next smaller magnitude is half the gap to the next larger. -/
def narrowBelow (x : Magnitude) : Bool :=
  x.mantissa == twoTo 52 && -1074 < x.exponent

/-- Compares `d` with `quarters * 2 ^ (exponent - 2)`. -/
def compareQuarters (d : Decimal) (quarters : Nat) (exponent : Int) : Ordering :=
  compare (d.digits * tenTo d.exponent.toNat * twoTo (2 - exponent).toNat)
    (quarters * twoTo (exponent - 2).toNat * tenTo (-d.exponent).toNat)

/-- Whether `d` lies among the reals that round to `x`. -/
def readsBack (x : Magnitude) (d : Decimal) : Bool :=
  let low := 4 * x.mantissa - if x.narrowBelow then 1 else 2
  let high := 4 * x.mantissa + 2
  let even := x.mantissa % 2 == 0
  let above := match compareQuarters d low x.exponent with
    | .gt => true
    | .eq => even
    | .lt => false
  let below := match compareQuarters d high x.exponent with
    | .lt => true
    | .eq => even
    | .gt => false
  above && below

/-- Whether `x < 10 ^ k`. -/
def isBelowPower (x : Magnitude) (k : Int) : Bool :=
  x.numerator * tenTo (-k).toNat < tenTo k.toNat * x.denominator

/-- The least `k` with `x < 10 ^ k`, found next to an estimate from the binary logarithm. -/
def decimalScale (x : Magnitude) : Int :=
  let estimate := ((x.mantissa.log2 : Int) + x.exponent) * 30103 / 100000 - 1
  let tries := [estimate, estimate + 1, estimate + 2, estimate + 3]
  (tries.find? x.isBelowPower).getD (estimate + 4)

/-- The better of the two neighbours of `x` on the grid of `10 ^ exponent`, if one reads back.
The nearer one is better, and on a tie the one with an even last digit. -/
def nearestOnGrid (x : Magnitude) (exponent : Int) : Option Decimal :=
  let num := x.numerator * tenTo (-exponent).toNat
  let den := x.denominator * tenTo exponent.toNat
  let down : Decimal := ⟨num / den, exponent⟩
  let up : Decimal := ⟨num / den + 1, exponent⟩
  let nearest := if roundHalfEven num den = down.digits then down else up
  match x.readsBack down, x.readsBack up with
  | true, true => some nearest
  | true, false => some down
  | false, true => some up
  | false, false => none

/-- Moves trailing zeros of the digits into the exponent, at most `fuel` of them. -/
def stripZeros : (fuel : Nat) → Decimal → Decimal
  | 0, d => d
  | fuel + 1, d =>
    if d.digits ≠ 0 ∧ d.digits % 10 = 0 then stripZeros fuel ⟨d.digits / 10, d.exponent + 1⟩ else d

/-- The shortest decimal that reads back to a positive magnitude. Seventeen digits are always
enough; the exact value stands behind them so that nothing is ever guessed. -/
def shortest (x : Magnitude) : Decimal :=
  let scale := x.decimalScale
  let grids := (List.range 17).map fun n => scale - (n + 1 : Nat)
  let exact : Decimal := ⟨x.mantissa * twoTo x.exponent.toNat * Nat.pow 5 (-x.exponent).toNat,
    min x.exponent 0⟩
  let found := (grids.findSome? x.nearestOnGrid).getD exact
  stripZeros (Nat.toDigits 10 found.digits).length found

end Magnitude

end Formwright
