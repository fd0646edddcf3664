/-!
Text as the library reads and writes it. JSON escapes can spell one half of a
surrogate pair alone, so a text is a list of code points and a code point is
either a Unicode scalar value or such a lone half.
-/

namespace Formwright

inductive CodePoint where
  | scalar (c : Char)
  /-- The code point `0xD800 + offset`. -/
  | surrogate (offset : Fin 2048)
  deriving DecidableEq, Repr, Inhabited

namespace CodePoint

def value : CodePoint → Nat
  | scalar c => c.toNat
  | surrogate offset => 0xD800 + offset.val

/-- The code point of a number below `0x110000`. -/
def ofNat (n : Nat) : CodePoint :=
  if h : 0xD800 ≤ n ∧ n < 0xE000 then surrogate ⟨n - 0xD800, by omega⟩
  else scalar (Char.ofNat n)

def isScalar : CodePoint → Bool
  | scalar _ => true
  | surrogate _ => false

/-- The value of an ASCII decimal digit. -/
def digit? (c : CodePoint) : Option Nat :=
  if 48 ≤ c.value ∧ c.value ≤ 57 then some (c.value - 48) else none

def isDigit (c : CodePoint) : Bool :=
  c.digit?.isSome

/-- The value of an ASCII hexadecimal digit in either case. -/
def hexDigit? (c : CodePoint) : Option Nat :=
  if 48 ≤ c.value ∧ c.value ≤ 57 then some (c.value - 48)
  else if 97 ≤ c.value ∧ c.value ≤ 102 then some (c.value - 87)
  else if 65 ≤ c.value ∧ c.value ≤ 70 then some (c.value - 55)
  else none

/-- ASCII capitals become small letters; everything else stays. -/
def asciiLower (c : CodePoint) : CodePoint :=
  if 65 ≤ c.value ∧ c.value ≤ 90 then ofNat (c.value + 32) else c

end CodePoint

abbrev Text := List CodePoint

/-- The text of a string literal. -/
def lit (s : String) : Text :=
  s.toList.map .scalar

def newline : CodePoint := .scalar '\n'

namespace Text

/-- The pieces in order with `separator` between neighbours. -/
def joinWith (separator : Text) : List Text → Text
  | [] => []
  | [piece] => piece
  | piece :: next :: rest => piece ++ separator ++ joinWith separator (next :: rest)

/-- The lines in order with a line feed between neighbours. -/
def ofLines (lines : List Text) : Text :=
  joinWith [newline] lines

/-- What follows `start` in a text that begins with it. -/
def after? (start : Text) (whole : Text) : Option Text :=
  match start, whole with
  | [], whole => some whole
  | _ :: _, [] => none
  | c :: start, d :: whole => if c = d then after? start whole else none

def startsWith (whole start : Text) : Bool :=
  (after? start whole).isSome

/-- The part before the first `mark` and, when there is one, the part behind it. -/
def cutAt (mark : CodePoint) : Text → Text × Option Text
  | [] => ([], none)
  | c :: rest =>
    if c = mark then ([], some rest)
    else
      let (before, behind) := cutAt mark rest
      (c :: before, behind)

/-- The pieces of a text between occurrences of `mark`. -/
def splitAt (mark : CodePoint) : Text → List Text
  | [] => [[]]
  | c :: rest =>
    if c = mark then [] :: splitAt mark rest
    else match splitAt mark rest with
      | [] => [[c]]
      | piece :: pieces => (c :: piece) :: pieces

/-- The lines of a text, without the line feeds between them. -/
def toLines (t : Text) : List Text :=
  splitAt newline t

/-- A text without a line feed at its end, or without one of several. -/
def dropFinalNewline (t : Text) : Text :=
  if t.getLast? = some newline then t.dropLast else t

/-- A text with line feeds for all line breaks. -/
def unifyBreaks : Text → Text
  | [] => []
  | .scalar '\r' :: .scalar '\n' :: rest => newline :: unifyBreaks rest
  | .scalar '\r' :: rest => newline :: unifyBreaks rest
  | c :: rest => c :: unifyBreaks rest

/-- The pieces of a text between line breaks: line feeds, carriage returns, and pairs of the two. -/
def splitAtBreaks (t : Text) : List Text :=
  splitAt newline (unifyBreaks t)

/-- A text without the code points that satisfy `drop` at its two ends. -/
def trimWhere (drop : CodePoint → Bool) (t : Text) : Text :=
  ((t.dropWhile drop).reverse.dropWhile drop).reverse

def asciiLower (t : Text) : Text :=
  t.map CodePoint.asciiLower

/-- The digits of a natural number in base ten. -/
def ofNat (n : Nat) : Text :=
  (Nat.toDigits 10 n).map .scalar

/-- An integer in base ten, with a minus sign when it is negative. -/
def ofInt : Int → Text
  | .ofNat n => ofNat n
  | .negSucc n => .scalar '-' :: ofNat (n + 1)

/-- A number in base sixteen with small letters, padded to `width` digits. -/
def ofHex (width n : Nat) : Text :=
  let digits := Nat.toDigits 16 n
  (List.replicate (width - digits.length) '0' ++ digits).map .scalar

/-- For showing a text outside the library; half surrogate pairs become U+FFFD. -/
def toString (t : Text) : String :=
  String.ofList (t.map fun
    | .scalar c => c
    | .surrogate _ => '\uFFFD')

end Text

end Formwright
