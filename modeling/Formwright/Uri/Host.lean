import Formwright.Number.Numeral
import Formwright.Text.Blank
import Formwright.Text.Utf8

/-!
Which texts are hosts of an address. A host is a number of version six in
brackets, a number of version four in dotted form, or a name. Where the scheme is
not one of the web, any text without marks that end a host will do.
-/

namespace Formwright.Uri

/-- One to four hexadecimal digits. -/
def isGroup (t : Text) : Bool :=
  !t.isEmpty && t.length ≤ 4 && t.all (·.hexDigit?.isSome)

def digitValues (t : Text) : List Nat :=
  t.filterMap CodePoint.digit?

/-- A number below 256 in decimal digits, without leading zeros. -/
def isByte (t : Text) : Bool :=
  !t.isEmpty && t.length ≤ 3 && t.all (·.isDigit) &&
    (t.length == 1 || t.head? != some (.scalar '0')) && Numeral.valueOf (digitValues t) ≤ 255

/-- Four bytes with points between them. -/
def isDotted (t : Text) : Bool :=
  let parts := t.splitAt (.scalar '.')
  parts.length == 4 && parts.all isByte

/-- How many groups a text with colons between them stands for. Four bytes in dotted form may be
last and stand for two. -/
def countGroups? : List Text → Option Nat
  | [] => some 0
  | [t] => if isGroup t then some 1 else if isDotted t then some 2 else none
  | t :: rest => if isGroup t then (countGroups? rest).map (· + 1) else none

/-- The part before the first double colon and, when there is one, the part behind it. -/
def cutAtGap : Text → Text × Option Text
  | [] => ([], none)
  | .scalar ':' :: .scalar ':' :: rest => ([], some rest)
  | c :: rest =>
    let (before, behind) := cutAtGap rest
    (c :: before, behind)

def groupsOf (t : Text) : List Text :=
  if t.isEmpty then [] else t.splitAt (.scalar ':')

/-- A number of version six: eight groups, or fewer with one gap among them. -/
def isVersionSix (t : Text) : Bool :=
  match cutAtGap t with
  | (t, none) => countGroups? (groupsOf t) == some 8
  | (before, some behind) =>
    (groupsOf before).all isGroup &&
      (countGroups? (groupsOf behind)).any fun n => (groupsOf before).length + n ≤ 7

/-- A number of version six between brackets. -/
def isBracketed : Text → Bool
  | .scalar '[' :: rest => rest.getLast? = some (.scalar ']') && isVersionSix rest.dropLast
  | _ => false

/-- A part of a number of version four: decimal, octal behind a zero, or hexadecimal behind `0x`;
nothing behind `0x` is zero. -/
def partValue? (t : Text) : Option Nat :=
  let inBase (base : Nat) (digits : Text) : Option Nat :=
    if digits.all fun c => c.hexDigit?.any (· < base) then
      some ((digits.filterMap CodePoint.hexDigit?).foldl (fun n d => base * n + d) 0)
    else none
  match t with
  | [] => none
  | [c] => inBase 10 [c]
  | c :: x :: digits =>
    if c = .scalar '0' then
      if x = .scalar 'x' ∨ x = .scalar 'X' then inBase 16 digits else inBase 8 (x :: digits)
    else inBase 10 t

/-- The parts of a name between its points; a point at the end counts for nothing. -/
def nameParts (t : Text) : List Text :=
  let parts := t.splitAt (.scalar '.')
  if 1 < parts.length ∧ parts.getLast? = some [] then parts.dropLast else parts

/-- Whether the last part of a name looks like part of a number. -/
def endsInNumber (t : Text) : Bool :=
  (nameParts t).getLast?.any fun part =>
    (!part.isEmpty && part.all (·.isDigit)) || (partValue? part).isSome

/-- Whether the parts are bytes but for the last, which fills the bytes that are left. -/
def fillsBytes : (left : Nat) → List Nat → Bool
  | 0, _ => false
  | _, [] => false
  | left, [n] => n < twoTo (8 * left)
  | left + 1, n :: rest => n ≤ 255 && fillsBytes left rest

/-- A number of version four in one to four parts. -/
def isVersionFour (t : Text) : Bool :=
  let parts := (nameParts t).map partValue?
  parts.all Option.isSome && fillsBytes 4 (parts.filterMap id)

/-- The bytes of a text with its escapes undone. -/
def unescaped : Text → List UInt8
  | [] => []
  | .scalar '%' :: a :: b :: rest =>
    match a.hexDigit?, b.hexDigit? with
    | some high, some low => .ofNat (16 * high + low) :: unescaped rest
    | _, _ => 0x25 :: unescaped (a :: b :: rest)
  | c :: rest => c.utf8Bytes ++ unescaped rest

/-- Code points that count for nothing in a name: the soft hyphen, joiners without width, the byte
order mark and the selectors of variants. -/
def isIgnored (c : CodePoint) : Bool :=
  let n := c.value
  n == 0xAD || n == 0x34F || n == 0x200B || n == 0x2060 || n == 0xFEFF ||
    (0x180B ≤ n && n ≤ 0x180F) || (0xFE00 ≤ n && n ≤ 0xFE0F)

/-- The plain form of a code point in a name: wide forms are those of ASCII, points of every
script are points, and blanks are blanks. -/
def plainForm (c : CodePoint) : CodePoint :=
  let n := c.value
  if n == 0x3002 || n == 0xFF61 then .scalar '.'
  else if 0xFF01 ≤ n && n ≤ 0xFF5E then .ofNat (n - 0xFEE0)
  else if 0x80 ≤ n && c.isWhiteSpace then .scalar ' '
  else c

/-- Marks that no host holds. -/
def isHostBreak (c : CodePoint) : Bool :=
  c.value == 0 || (lit "\t\n\r #/:<>?@[\\]^|").contains c

/-- Marks that no name holds: besides those of hosts the controls and the percent sign. -/
def isNameBreak (c : CodePoint) : Bool :=
  isHostBreak c || c.value < 0x20 || (0x7F ≤ c.value && c.value < 0xA0) || c == .scalar '%'

/-- Whether a text is a host of the web. -/
def isWebHost (t : Text) : Bool :=
  if t.head? = some (.scalar '[') then isBracketed t
  else
    match Text.ofUtf8? (unescaped t) with
    | none => false
    | some name =>
      let name := (name.filter (!isIgnored ·)).map plainForm
      !name.isEmpty && !name.any isNameBreak && (!endsInNumber name || isVersionFour name)

/-- Whether a text, which may be empty, is a host under a scheme that is not of the web. -/
def isOtherHost (t : Text) : Bool :=
  if t.head? = some (.scalar '[') then isBracketed t else !t.any isHostBreak

end Formwright.Uri
