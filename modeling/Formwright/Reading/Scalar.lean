import Formwright.Number.Reading
import Formwright.Reading.Issue

/-!
Reading single values. Each reader takes some values of other types besides its
own: integers come also from flags, integral numbers and numerals; flags from 0,
1 and certain words; texts from bytes in UTF-8. Where several types are allowed,
a value that is already of one of them is kept as it is, and any other goes to
the first reader that takes it.
-/

namespace Formwright.Value

/-- The text in a text or byte value. A text that is to be interpreted may not hold half
surrogate pairs, and bytes that are not UTF-8 are refused with the cause of bad syntax. -/
def interpreted? (badSyntax : Cause) : Value → Option (Except Cause Text)
  | text t => some (if t.all CodePoint.isScalar then .ok t else .error .notUnicode)
  | bytes content =>
    match Text.ofUtf8? content with
    | some t => some (.ok t)
    | none => some (.error badSyntax)
  | _ => none

def readText : Value → Except Cause Text
  | text t => .ok t
  | bytes content =>
    match Text.ofUtf8? content with
    | some t => .ok t
    | none => .error .notUnicode
  | _ => .error .notText

/-- The integer that a real number is. The least machine word counts as out of range. -/
def integerOfReal (x : Double) : Except Cause Int :=
  match x with
  | .nan => .error .notFinite
  | .infinite _ => .error .notFinite
  | x =>
    match x.toInt? with
    | none => .error .fraction
    | some n => if -Numeral.wordBound < n ∧ n < Numeral.wordBound then .ok n else .error .integerSize

def readInteger (v : Value) : Except Cause Int :=
  match v with
  | int n => .ok n
  | bool b => .ok (if b then 1 else 0)
  | float x => integerOfReal x
  | v =>
    match v.interpreted? .integerSyntax with
    | none => .error .notInteger
    | some (.error cause) => .error cause
    | some (.ok t) =>
      match Numeral.readWhole t with
      | .ok n => .ok n
      | .error .malformed => .error .integerSyntax
      | .error (.tooLong _) => .error .integerSize

def readReal (v : Value) : Except Cause Double :=
  match v with
  | float x => .ok x
  | int n => .ok (Double.ofInt n)
  | bool b => .ok (Double.ofInt (if b then 1 else 0))
  | v =>
    match v.interpreted? .realSyntax with
    | none => .error .notReal
    | some (.error cause) => .error cause
    | some (.ok t) =>
      match Numeral.readReal t with
      | some x => .ok x
      | none => .error .realSyntax

def trueWords : List Text :=
  [lit "1", lit "on", lit "t", lit "true", lit "y", lit "yes"]

def falseWords : List Text :=
  [lit "0", lit "off", lit "f", lit "false", lit "n", lit "no"]

def flagOfText (t : Text) : Except Cause Bool :=
  let word := t.asciiLower
  if trueWords.contains word then .ok true
  else if falseWords.contains word then .ok false
  else .error .flagSyntax

/-- Zero and one are flags; another integer is refused as one that cannot be interpreted. -/
def flagOfInteger (n : Int) : Except Cause Bool :=
  if n = 0 then .ok false
  else if n = 1 then .ok true
  else .error .flagSyntax

def readFlag (v : Value) : Except Cause Bool :=
  match v with
  | bool b => .ok b
  | int n => if Numeral.isWord n then flagOfInteger n else .error .notFlag
  | float x =>
    match integerOfReal x with
    | .ok n => flagOfInteger n
    | .error _ => .error .notFlag
  | v =>
    match v.interpreted? .flagSyntax with
    | none => .error .notFlag
    | some (.error cause) => .error cause
    | some (.ok t) => flagOfText t

/-- A text, or null for none. -/
def readOptionalText : Value → Except Cause (Option Text)
  | null => .ok none
  | v => v.readText.map some

/-- The issues of a value that none of several readers takes, each placed under its reader. -/
def refuseAll (v : Value) (causes : List (String × Cause)) : List Issue :=
  causes.map fun (reader, cause) => ⟨[.key (lit reader)], cause, v⟩

def readNumber (v : Value) : Reading Number :=
  match v with
  | int n => .ok (.whole n)
  | float x => .ok (.real x)
  | v =>
    match v.readInteger, v.readReal with
    | .ok n, _ => .ok (.whole n)
    | _, .ok x => .ok (.real x)
    | .error first, .error second => .error (v.refuseAll [("int", first), ("float", second)])

/-- The value of a choice. -/
def readScalar (v : Value) : Reading Scalar :=
  match v with
  | text t => .ok (.text t)
  | int n => .ok (.number (.whole n))
  | float x => .ok (.number (.real x))
  | v =>
    match v.readText, v.readInteger, v.readReal with
    | .ok t, _, _ => .ok (.text t)
    | _, .ok n, _ => .ok (.number (.whole n))
    | _, _, .ok x => .ok (.number (.real x))
    | .error first, .error second, .error third =>
      .error (v.refuseAll [("str", first), ("int", second), ("float", third)])

/-- A bound of a number field; null stands for none. -/
def readBound : Value → Reading (Option Number)
  | null => .ok none
  | v => v.readNumber.map some

end Formwright.Value
