import Formwright.Json.Basic
import Formwright.Number.Reading

/-!
Reading JSON text. Besides the standard grammar the reader takes `NaN`,
`Infinity` and `-Infinity`; a repeated member name keeps its first place and its
last value. Nesting is limited, and so is the length of an integer.
-/

namespace Formwright.Json

/-- What is wrong at a place of a document. -/
inductive Complaint where
  | value
  | name
  | colon
  | comma
  | unterminated
  | controlCharacter
  | badEscape
  | badHexEscape
  | extraData
  | byteOrderMark
  deriving DecidableEq, Repr

def Complaint.message : Complaint → String
  | value => "Expecting value"
  | name => "Expecting property name enclosed in double quotes"
  | colon => "Expecting ':' delimiter"
  | comma => "Expecting ',' delimiter"
  | unterminated => "Unterminated string starting at"
  | controlCharacter => "Invalid control character at"
  | badEscape => "Invalid \\escape"
  | badHexEscape => "Invalid \\uXXXX escape"
  | extraData => "Extra data"
  | byteOrderMark => "Unexpected UTF-8 BOM (decode using utf-8-sig)"

/-- Why a text is not read. -/
inductive ReadError where
  /-- A complaint and the number of code points before its place. -/
  | malformed (complaint : Complaint) (document : Text) (position : Nat)
  | numeralTooLong (digits : Nat)
  | tooDeep

/-- How large a document may be. -/
structure Limits where
  /-- The levels of arrays and objects that may be open at once. -/
  nesting : Nat
  /-- The digits of an integer. -/
  digits : Nat

def Limits.usual : Limits := ⟨990, Numeral.digitLimit⟩

/-- A stop inside a document: the complaint and the count of code points from its place on. -/
inductive Stop where
  | complaint (c : Complaint) (remaining : Nat)
  | numeralTooLong (digits : Nat)
  | tooDeep

def isBlank (c : CodePoint) : Bool :=
  c == .scalar ' ' || c == .scalar '\t' || c == .scalar '\n' || c == .scalar '\r'

def skipBlanks (t : Text) : Text :=
  t.dropWhile isBlank

/-- The code point of four hexadecimal digits. -/
def hexUnit? (a b c d : CodePoint) : Option Nat := do
  return (((← a.hexDigit?) * 16 + (← b.hexDigit?)) * 16 + (← c.hexDigit?)) * 16 + (← d.hexDigit?)

/-- Adds the unit of a hexadecimal escape. A low half right behind the escape of a high half
makes one code point with it. -/
def pushUnit (afterEscape : Bool) (unit : Nat) (reversed : Text) : Text :=
  match afterEscape, reversed with
  | true, .surrogate high :: before =>
    if high.val < 0x400 ∧ 0xDC00 ≤ unit ∧ unit < 0xE000 then
      .ofNat (0x10000 + high.val * 0x400 + (unit - 0xDC00)) :: before
    else .ofNat unit :: reversed
  | _, _ => .ofNat unit :: reversed

def simpleEscape? (c : CodePoint) : Option CodePoint :=
  match c with
  | .scalar '"' => some (.scalar '"')
  | .scalar '\\' => some (.scalar '\\')
  | .scalar '/' => some (.scalar '/')
  | .scalar 'b' => some (.scalar '\x08')
  | .scalar 'f' => some (.scalar '\x0c')
  | .scalar 'n' => some (.scalar '\n')
  | .scalar 'r' => some (.scalar '\r')
  | .scalar 't' => some (.scalar '\t')
  | _ => none

/-- The rest of a string behind its opening quote; `start` is the text from that quote on. -/
def readString (start : Text) (afterEscape : Bool) (reversed : Text) :
    Text → Except Stop (Text × Text)
  | [] => .error (.complaint .unterminated start.length)
  | c :: rest =>
    if c = .scalar '"' then .ok (reversed.reverse, rest)
    else if c = .scalar '\\' then
      match rest with
      | [] => .error (.complaint .unterminated start.length)
      | e :: tail =>
        if e = .scalar 'u' then
          match tail with
          | a :: b :: c :: d :: next :: tail' =>
            match hexUnit? a b c d with
            | some unit => readString start true (pushUnit afterEscape unit reversed) (next :: tail')
            | none => .error (.complaint .badHexEscape (tail.length + 1))
          | _ => .error (.complaint .badHexEscape (tail.length + 1))
        else match simpleEscape? e with
          | some c => readString start false (c :: reversed) tail
          | none => .error (.complaint .badEscape (tail.length + 2))
    else if c.value < 0x20 then .error (.complaint .controlCharacter (rest.length + 1))
    else readString start false (c :: reversed) rest

/-- The digits of an exponent with its sign, if any are there. -/
def takeExponent (t : Text) : Option (Int × Text) :=
  match t with
  | c :: rest =>
    if c = .scalar 'e' ∨ c = .scalar 'E' then
      let (negative, body) := Numeral.splitSign rest
      let digits := body.takeWhile CodePoint.isDigit
      if digits.isEmpty then none
      else some (Numeral.signed negative (Numeral.valueOf (digits.filterMap CodePoint.digit?)),
        body.dropWhile CodePoint.isDigit)
    else none
  | [] => none

/-- The digits behind a decimal point, if any are there. -/
def takeFraction (t : Text) : Option (Text × Text) :=
  match t with
  | c :: rest =>
    let digits := rest.takeWhile CodePoint.isDigit
    if c = .scalar '.' ∧ !digits.isEmpty then some (digits, rest.dropWhile CodePoint.isDigit)
    else none
  | [] => none

/-- A number at the start of a text. -/
def readNumber (limits : Limits) (t : Text) : Except Stop (Json × Text) :=
  let (negative, body) := match t with
    | .scalar '-' :: rest => (true, rest)
    | rest => (false, rest)
  let whole := match body with
    | .scalar '0' :: _ => [CodePoint.scalar '0']
    | rest => rest.takeWhile CodePoint.isDigit
  if whole.isEmpty then .error (.complaint .value t.length)
  else
    let rest := body.drop whole.length
    let (fraction, rest, hasFraction) := match takeFraction rest with
      | some (digits, rest) => (digits, rest, true)
      | none => ([], rest, false)
    let (exponent, rest, hasExponent) := match takeExponent rest with
      | some (exponent, rest) => (exponent, rest, true)
      | none => (0, rest, false)
    if hasFraction || hasExponent then
      let digits := Numeral.valueOf ((whole ++ fraction).filterMap CodePoint.digit?)
      .ok (.float (Double.ofDecimal negative digits (exponent - fraction.length)), rest)
    else if limits.digits < whole.length then .error (.numeralTooLong whole.length)
    else .ok (.int (Numeral.signed negative (Numeral.valueOf (whole.filterMap CodePoint.digit?))),
      rest)

/-- The words that stand for a value. -/
def words : List (Text × Json) :=
  [(lit "null", .null), (lit "true", .bool true),
    (lit "false", .bool false), (lit "NaN", .float .nan),
    (lit "Infinity", .float (.infinite false)),
    (lit "-Infinity", .float (.infinite true))]

def readWord? (t : Text) : Option (Json × Text) :=
  words.findSome? fun (word, value) => (Text.after? word t).map (value, ·)

mutual

/-- The value at the start of a text, in which `depth` more levels may be opened. Every second
step takes a code point, so twice the length is fuel enough. -/
def readValue (limits : Limits) : (fuel depth : Nat) → Text → Except Stop (Json × Text)
  | 0, _, _ => .error .tooDeep
  | fuel + 1, depth, t =>
    match t with
    | .scalar '"' :: rest => do
      let (s, rest) ← readString t false [] rest
      return (.text s, rest)
    | .scalar '{' :: rest =>
      match depth with
      | 0 => .error .tooDeep
      | depth + 1 =>
        match skipBlanks rest with
        | .scalar '}' :: rest => .ok (.object [], rest)
        | rest => readMembers limits fuel depth [] rest
    | .scalar '[' :: rest =>
      match depth with
      | 0 => .error .tooDeep
      | depth + 1 =>
        match skipBlanks rest with
        | .scalar ']' :: rest => .ok (.array [], rest)
        | rest => readItems limits fuel depth [] rest
    | t =>
      match readWord? t with
      | some found => .ok found
      | none => readNumber limits t

def readItems (limits : Limits) : (fuel depth : Nat) → List Json → Text → Except Stop (Json × Text)
  | 0, _, _, _ => .error .tooDeep
  | fuel + 1, depth, reversed, t => do
    let (item, rest) ← readValue limits fuel depth t
    match skipBlanks rest with
    | .scalar ']' :: rest => return (.array (item :: reversed).reverse, rest)
    | .scalar ',' :: rest => readItems limits fuel depth (item :: reversed) (skipBlanks rest)
    | rest => .error (.complaint .comma rest.length)

def readMembers (limits : Limits) :
    (fuel depth : Nat) → List (Text × Json) → Text → Except Stop (Json × Text)
  | 0, _, _, _ => .error .tooDeep
  | fuel + 1, depth, members, t =>
    match t with
    | .scalar '"' :: rest => do
      let (name, rest) ← readString t false [] rest
      match skipBlanks rest with
      | .scalar ':' :: rest =>
        let (value, rest) ← readValue limits fuel depth (skipBlanks rest)
        let members := putMember name value members
        match skipBlanks rest with
        | .scalar '}' :: rest => return (.object members, rest)
        | .scalar ',' :: rest => readMembers limits fuel depth members (skipBlanks rest)
        | rest => .error (.complaint .comma rest.length)
      | rest => .error (.complaint .colon rest.length)
    | t => .error (.complaint .name t.length)

end

/-- The document that a text spells, if it keeps to the limits. -/
def readWithin (limits : Limits) (t : Text) : Except ReadError Json :=
  let refuse : Stop → ReadError
    | .complaint c remaining => .malformed c t (t.length - remaining)
    | .numeralTooLong digits => .numeralTooLong digits
    | .tooDeep => .tooDeep
  match t with
  | .scalar '\uFEFF' :: _ => .error (.malformed .byteOrderMark t 0)
  | _ =>
    match readValue limits (2 * t.length + 2) limits.nesting (skipBlanks t) with
    | .error stop => .error (refuse stop)
    | .ok (value, rest) =>
      match skipBlanks rest with
      | [] => .ok value
      | rest => .error (.malformed .extraData t (t.length - rest.length))

/-- The document that a text spells. -/
def read (t : Text) : Except ReadError Json :=
  readWithin .usual t

/-- The line and column of a place, both counted from one; only a line feed ends a line. -/
def lineAndColumn (document : Text) (position : Nat) : Nat × Nat :=
  let before := document.take position
  (before.count newline + 1, (before.reverse.takeWhile (· ≠ newline)).length + 1)

/-- The text of a refused integer of so many digits. -/
def tooLongMessage (digits : Nat) : Text :=
  lit "Exceeds the limit (" ++ Text.ofNat Numeral.digitLimit ++
    lit " digits) for integer string conversion: value has " ++ Text.ofNat digits ++
    lit " digits; use sys.set_int_max_str_digits() to increase the limit"

def ReadError.message : ReadError → Text
  | malformed complaint document position =>
    let (line, column) := lineAndColumn document position
    lit complaint.message ++ lit ": line " ++ Text.ofNat line ++
      lit " column " ++ Text.ofNat column ++ lit " (char " ++
      Text.ofNat position ++ lit ")"
  | numeralTooLong digits => tooLongMessage digits
  | tooDeep => []

end Formwright.Json
