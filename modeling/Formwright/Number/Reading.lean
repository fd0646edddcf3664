import Formwright.Number.Numeral
import Formwright.Text.Blank
import Formwright.Text.DecimalDigit

/-!
Numbers read from text, under three grammars: `Settings` values take digits of
every script, item fields take ASCII digits with an optional empty fraction, and
real numbers take decimal syntax with an exponent. All three trim white space
and let a single underscore stand between digits; a real number is trimmed or
freed of underscores, never both.
-/

namespace Formwright

/-- Why a text is no integer. -/
inductive NumeralError where
  /-- The text does not follow the grammar. -/
  | malformed
  /-- The text has more digits than the limit. -/
  | tooLong (digits : Nat)
  deriving DecidableEq, Repr

namespace Numeral

/-- A sign in front of a text, and what follows it. -/
def splitSign : Text → Bool × Text
  | .scalar '-' :: rest => (true, rest)
  | .scalar '+' :: rest => (false, rest)
  | rest => (false, rest)

def signed (negative : Bool) (n : Nat) : Int :=
  if negative then -(n : Int) else n

def isUnderscore (c : CodePoint) : Bool :=
  c == .scalar '_'

/-- The digit values at the start of a text, single underscores between them skipped, and the
rest of the text. An underscore that no digit follows stays in the rest. -/
def takeDigits (digit? : CodePoint → Option Nat) : Text → List Nat × Text
  | [] => ([], [])
  | c :: rest =>
    match digit? c with
    | none => ([], c :: rest)
    | some d =>
      match rest with
      | u :: e :: tail =>
        if isUnderscore u ∧ (digit? e).isSome then
          let (ds, behind) := takeDigits digit? (e :: tail)
          (d :: ds, behind)
        else
          let (ds, behind) := takeDigits digit? (u :: e :: tail)
          (d :: ds, behind)
      | rest =>
        let (ds, behind) := takeDigits digit? rest
        (d :: ds, behind)

/-- The integer that a setting's text stands for. A run of digits past the limit is refused
before the rest of the text is looked at. -/
def readSetting (t : Text) : Except NumeralError Int :=
  let (negative, body) := splitSign t.trimWhiteSpace
  let (digits, rest) := takeDigits CodePoint.decimal? body
  if rest.head?.any isUnderscore then .error .malformed
  else if digitLimit < digits.length then .error (.tooLong digits.length)
  else if digits.isEmpty ∨ !rest.isEmpty then .error .malformed
  else .ok (signed negative (valueOf digits))

def hasDoubledUnderscore : Text → Bool
  | c :: d :: rest => (isUnderscore c && isUnderscore d) || hasDoubledUnderscore (d :: rest)
  | _ => false

/-- A text freed of underscores, unless one leads, ends or is doubled. -/
def withoutUnderscores? (t : Text) : Option Text :=
  if t.head?.any isUnderscore || t.getLast?.any isUnderscore || hasDoubledUnderscore t then none
  else some (t.filter (!isUnderscore ·))

def isZero (c : CodePoint) : Bool :=
  c == .scalar '0'

/-- What is left of a numeral behind its leading zeros, the last of which is given. Underscores
among the zeros go with them, whatever their number; the last zero stays in front of a point or at
the end; a minus sign behind the zeros counts as the sign of the rest. -/
def behindZeros? (last : CodePoint) : Text → Option Text
  | [] => some [last]
  | c :: rest =>
    if isZero c || isUnderscore c then behindZeros? c rest
    else if c.isDigit || c == .scalar '-' then some (c :: rest)
    else if c == .scalar '.' then some (last :: c :: rest)
    else none

/-- A numeral without sign, freed of leading zeros. -/
def withoutZeros? : Text → Option Text
  | [] => none
  | c :: rest =>
    if isZero c then behindZeros? c rest
    else if c.isDigit then some (c :: rest)
    else none

/-- A text without a point and the zeros behind it, when nothing else is behind the point. -/
def dropEmptyFraction (t : Text) : Text :=
  match t.cutAt (.scalar '.') with
  | (whole, some (c :: zeros)) => if (c :: zeros).all isZero then whole else t
  | _ => t

/-- The integer that a minus sign, if there is one, and digits spell; zero has a single digit. The
sign counts against the limit. -/
def readPlainWhole (t : Text) : Except NumeralError Int :=
  let (negative, body) := match t with
    | .scalar '-' :: rest => (true, rest)
    | t => (false, t)
  let digits := body.takeWhile CodePoint.isDigit
  let length := digits.length + if negative then 1 else 0
  if digits.head?.any isZero ∧ 1 < digits.length then .error .malformed
  else if digitLimit < length then .error (.tooLong length)
  else if digits.isEmpty ∨ digits.length < body.length then .error .malformed
  else .ok (signed negative (valueOf (digits.filterMap CodePoint.digit?)))

/-- The integer that the text of an item field stands for. -/
def readWhole (t : Text) : Except NumeralError Int :=
  let (sign, body) := match t.trimWhiteSpace with
    | .scalar '-' :: rest => ([.scalar '-'], rest)
    | .scalar '+' :: rest => ([], rest)
    | rest => ([], rest)
  match withoutZeros? body with
  | none => .error .malformed
  | some body =>
    let plain := dropEmptyFraction (sign ++ body)
    readPlainWhole ((withoutUnderscores? plain).getD plain)

/-- The exponent at the end of a real number. -/
def readExponent : Text → Option Int
  | [] => some 0
  | c :: rest =>
    if c == .scalar 'e' ∨ c == .scalar 'E' then
      let (negative, body) := splitSign rest
      if body.isEmpty ∨ body.any (!·.isDigit) then none
      else some (signed negative (valueOf (body.filterMap CodePoint.digit?)))
    else none

/-- A real number without sign: digits with at most one point among them, then an exponent. -/
def readDecimal (negative : Bool) (t : Text) : Option Double :=
  let whole := t.takeWhile CodePoint.isDigit
  let rest := t.dropWhile CodePoint.isDigit
  let (fraction, rest) := match rest with
    | .scalar '.' :: rest => (rest.takeWhile CodePoint.isDigit, rest.dropWhile CodePoint.isDigit)
    | rest => ([], rest)
  if whole.isEmpty ∧ fraction.isEmpty then none
  else (readExponent rest).map fun exponent =>
    Double.ofDecimal negative (valueOf ((whole ++ fraction).filterMap CodePoint.digit?))
      (exponent - fraction.length)

/-- The real number that a text spells without blanks and underscores. Infinities and the value
that is no number are spelled in any case. -/
def readPlainReal (t : Text) : Option Double :=
  let (negative, body) := splitSign t
  let word := body.asciiLower
  if word = lit "inf" ∨ word = lit "infinity" then some (.infinite negative)
  else if word = lit "nan" then some .nan
  else readDecimal negative body

/-- The real number that a text stands for once it is trimmed, or else once it is freed of
underscores. -/
def readReal (t : Text) : Option Double :=
  (readPlainReal t.trimWhiteSpace).or ((withoutUnderscores? t).bind readPlainReal)

end Numeral

end Formwright
