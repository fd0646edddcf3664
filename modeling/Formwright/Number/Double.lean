/-!
Binary floating point with 53 bits of precision as exact data: a sign and a
magnitude `mantissa * 2 ^ exponent`, or an infinity, or the one value that is no
number. Every finite value has one representation, its exponent being least
when the mantissa has fewer than 53 bits.
-/

namespace Formwright

/-- Two to the power of `n`. -/
def twoTo (n : Nat) : Nat :=
  Nat.pow 2 n

/-- Ten to the power of `n`. -/
def tenTo (n : Nat) : Nat :=
  Nat.pow 10 n

structure Magnitude where
  mantissa : Nat
  exponent : Int
  mantissa_lt : mantissa < twoTo 53
  exponent_ge : -1074 ≤ exponent
  exponent_le : exponent ≤ 971
  normal : exponent = -1074 ∨ twoTo 52 ≤ mantissa
  deriving DecidableEq, Repr

inductive Double where
  | nan
  | infinite (negative : Bool)
  | finite (negative : Bool) (magnitude : Magnitude)
  deriving DecidableEq, Repr

namespace Magnitude

def zero : Magnitude :=
  ⟨0, -1074, by decide, by decide, by decide, .inl rfl⟩

/-- The numerator of the value over `x.denominator`. -/
def numerator (x : Magnitude) : Nat :=
  x.mantissa * twoTo x.exponent.toNat

def denominator (x : Magnitude) : Nat :=
  twoTo (-x.exponent).toNat

/-- The value when it has no fractional part. -/
def toNat? (x : Magnitude) : Option Nat :=
  if x.numerator % x.denominator = 0 then some (x.numerator / x.denominator) else none

end Magnitude

/-- The quotient rounded to the nearest natural number, a half to the even neighbour. -/
def roundHalfEven (num den : Nat) : Nat :=
  let down := num / den
  let twice := 2 * (num % den)
  if twice < den then down
  else if den < twice then down + 1
  else if down % 2 = 0 then down
  else down + 1

namespace Double

def zero : Double :=
  finite false .zero

/-- The value `mantissa * 2 ^ exponent`; what lies past the largest magnitude is infinite. -/
def ofScaled (negative : Bool) (mantissa : Nat) (exponent : Int) : Double :=
  if h : mantissa < twoTo 53 ∧ -1074 ≤ exponent ∧ exponent ≤ 971 ∧
      (exponent = -1074 ∨ twoTo 52 ≤ mantissa) then
    finite negative ⟨mantissa, exponent, h.1, h.2.1, h.2.2.1, h.2.2.2⟩
  else infinite negative

/-- The quotient of two positive numbers, rounded to the nearest value, a tie to the even
mantissa. -/
def ofRatio (negative : Bool) (num den : Nat) : Double :=
  let least : Int := max (-1074) ((num.log2 : Int) - den.log2 - 53)
  let scaled (exponent : Int) : Nat × Nat :=
    (num * twoTo (-exponent).toNat, den * twoTo exponent.toNat)
  let (n, d) := scaled least
  let exponent := if n / d < twoTo 53 then least else least + 1
  let (n, d) := scaled exponent
  let mantissa := roundHalfEven n d
  if mantissa = twoTo 53 then ofScaled negative (twoTo 52) (exponent + 1)
  else ofScaled negative mantissa exponent

/-- The value nearest to `digits * 10 ^ exponent`. The bounds on the exponent only avoid powers
whose outcome is already known. -/
def ofDecimal (negative : Bool) (digits : Nat) (exponent : Int) : Double :=
  if digits = 0 then finite negative .zero
  else
    let places : Int := (Nat.toDigits 10 digits).length
    if 310 < places + exponent then infinite negative
    else if places + exponent < -330 then finite negative .zero
    else ofRatio negative (digits * tenTo exponent.toNat) (tenTo (-exponent).toNat)

def ofInt (n : Int) : Double :=
  ofDecimal (n < 0) n.natAbs 0

/-- The value as an integer when it is finite and has no fractional part. -/
def toInt? : Double → Option Int
  | nan => none
  | infinite _ => none
  | finite negative x => x.toNat?.map fun n => if negative then -(n : Int) else n

def isZero : Double → Bool
  | finite _ x => x.mantissa == 0
  | _ => false

/-- Equality of the numbers meant: zero has one value under both signs. What is no number agrees
with itself only when `nanAgrees` says so. -/
def sameNumber (nanAgrees : Bool) : Double → Double → Bool
  | nan, nan => nanAgrees
  | x, y => x == y || (x.isZero && y.isZero)

end Double

end Formwright
