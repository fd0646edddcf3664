import Formwright.Number.Shortest
import Formwright.Text.Basic

/-!
Numerals. Integers are written in full, but none of more than 4300 digits is
written or read. Other numbers are laid out from their shortest decimal by a
`NumberStyle`, the record of all that a format decides.
-/

namespace Formwright

namespace Numeral

/-- The most digits that an integer may have in text. -/
def digitLimit : Nat := 4300

/-- The least natural number with more digits than the limit. -/
def tooLong : Nat := tenTo digitLimit

/-- Two to the power of 63: the machine words run from its negation up to below it. -/
def wordBound : Int := 0x8000000000000000

/-- Whether an integer is a machine word. -/
def isWord (n : Int) : Bool :=
  -wordBound ≤ n && n < wordBound

/-- The numeral of an integer, unless it would pass the limit. -/
def ofInt? (n : Int) : Option Text :=
  if n.natAbs < tooLong then some (Text.ofInt n) else none

/-- The number that a sequence of digit values stands for. -/
def valueOf (digits : List Nat) : Nat :=
  digits.foldl (fun n d => 10 * n + d) 0

end Numeral

/-- What a format decides about numbers that are not written as integers. A leading digit of
exponent `e` is written positionally when `plainFrom ≤ e < plainBelow`. -/
structure NumberStyle where
  plainFrom : Int
  plainBelow : Int
  /-- Whether an integral value ends in `.0`. -/
  pointZero : Bool
  /-- The least count of digits in the exponent. -/
  exponentWidth : Nat
  signedZero : Bool
  nan : Text
  infinity : Text

namespace NumberStyle

def zeros (n : Nat) : Text :=
  List.replicate n (.scalar '0')

def layout (style : NumberStyle) (d : Decimal) : Text :=
  let digits := Text.ofNat d.digits
  let count := digits.length
  let lead : Int := d.exponent + count - 1
  if style.plainFrom ≤ lead ∧ lead < style.plainBelow then
    if 0 ≤ d.exponent then
      digits ++ zeros d.exponent.toNat ++ if style.pointZero then lit ".0" else []
    else if 0 ≤ lead then
      digits.take (lead.toNat + 1) ++ lit "." ++ digits.drop (lead.toNat + 1)
    else lit "0." ++ zeros (-lead - 1).toNat ++ digits
  else
    let point := if 1 < count then lit "." else []
    let exponent := Text.ofNat lead.natAbs
    digits.take 1 ++ point ++ digits.drop 1 ++ lit "e" ++
      (if lead < 0 then lit "-" else lit "+") ++
      zeros (style.exponentWidth - exponent.length) ++ exponent

/-- A number in the given style. -/
def render (style : NumberStyle) : Double → Text
  | .nan => style.nan
  | .infinite negative => (if negative then lit "-" else []) ++ style.infinity
  | .finite negative x =>
    if x.mantissa = 0 then
      (if negative ∧ style.signedZero then lit "-" else []) ++
        (if style.pointZero then lit "0.0" else lit "0")
    else (if negative then lit "-" else []) ++ style.layout x.shortest

end NumberStyle

/-- The style of numbers in messages and in generated markup: positional from a ten-thousandth
up to below ten to the sixteenth, otherwise with an exponent of two digits or more. -/
def plainStyle : NumberStyle where
  plainFrom := -4
  plainBelow := 16
  pointZero := true
  exponentWidth := 2
  signedZero := true
  nan := lit "nan"
  infinity := lit "inf"

namespace Double

/-- The usual text of a number. -/
def written (x : Double) : Text :=
  plainStyle.render x

end Double

end Formwright
