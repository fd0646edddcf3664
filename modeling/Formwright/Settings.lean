import Formwright.Json.Reader
import Formwright.Number.Reading
import Formwright.Text.LetterCase
import Formwright.Text.Quoted

/-!
Settings of the outer surfaces, read from named variables. What is generated
never depends on them. Every value is first kept as bytes, which not all texts
are. The numbers are then read in the order in which they are listed here, and
the first that is no integer is reported.
-/

namespace Formwright

structure Settings where
  transport : Text
  host : Text
  portNumber : Int
  logLevel : Text
  /-- The width of a level in written documents. -/
  indent : Int
  demoPortNumber : Int

namespace Settings

def default : Settings where
  transport := lit "stdio"
  host := lit "0.0.0.0"
  portNumber := 8080
  logLevel := lit "INFO"
  indent := 2
  demoPortNumber := 7860

/-- The names of the variables that are looked at. -/
def variableNames : List Text :=
  [lit "MCP_TRANSPORT", lit "MCP_HOST", lit "MCP_PORT", lit "FORM_CODEGEN_LOG_LEVEL",
    lit "FORM_CODEGEN_JSON_INDENT", lit "FORM_CODEGEN_DEMO_PORT"]

/-- Why variables make no settings. -/
inductive Problem where
  | notInteger (t : Text) (cause : NumeralError)
  /-- A value holds the code point zero, which ends a value where variables are kept. -/
  | zeroInside
  /-- A value holds halves of surrogate pairs that stand for no byte, from a position to another. -/
  | notKept (t : Text) (first last : Nat)

namespace Problem

/-- Of a text that is no integer at most 200 code points are shown. -/
def message : Problem → Text
  | notInteger t .malformed => lit "invalid literal for int() with base 10: " ++ t.quoted.take 200
  | notInteger _ (.tooLong digits) => Json.tooLongMessage digits
  | zeroInside => lit "embedded null byte"
  | notKept t first last =>
    let places :=
      if first = last then
        lit " '\\u" ++ Text.ofHex 4 (((t[first]?).map CodePoint.value).getD 0) ++
          lit "' in position " ++ Text.ofNat first
      else lit "s in position " ++ Text.ofNat first ++ lit "-" ++ Text.ofNat last
    lit "'utf-8' codec can't encode character" ++ places ++ lit ": surrogates not allowed"

end Problem

/-- Whether half a surrogate pair stands for a byte that is no UTF-8. -/
def standsForByte (c : CodePoint) : Bool :=
  0xDC80 ≤ c.value && c.value ≤ 0xDCFF

/-- The first run of halves of surrogate pairs in a text, from the first one on that stands for no
byte; `position` code points precede the text. -/
def notKept? (position : Nat) : Text → Option (Nat × Nat)
  | [] => none
  | c :: rest =>
    if c.isScalar || standsForByte c then notKept? (position + 1) rest
    else some (position, position + (rest.takeWhile (!·.isScalar)).length)

/-- Checks that a value can be kept in a variable. -/
def keep (t : Text) : Except Problem Unit :=
  match notKept? 0 t with
  | some (first, last) => .error (.notKept t first last)
  | none => if t.any (·.value == 0) then .error .zeroInside else .ok ()

/-- The integer in a variable, or the default when it is not set. -/
def number (environment : List (Text × Text)) (name : String) (default : Int) :
    Except Problem Int :=
  match member? (lit name) environment with
  | none => .ok default
  | some t => (Numeral.readSetting t).mapError (.notInteger t)

/-- The settings that the variables make, or the first problem with them. -/
def ofVariables (environment : List (Text × Text)) : Except Problem Settings := do
  environment.forM fun (_, t) => keep t
  let value (name : String) (default : Text) : Text :=
    (member? (lit name) environment).getD default
  let portNumber ← number environment "MCP_PORT" default.portNumber
  let indent ← number environment "FORM_CODEGEN_JSON_INDENT" default.indent
  let demoPortNumber ← number environment "FORM_CODEGEN_DEMO_PORT" default.demoPortNumber
  return {
    transport := value "MCP_TRANSPORT" default.transport
    host := value "MCP_HOST" default.host
    portNumber, indent, demoPortNumber
    logLevel := (value "FORM_CODEGEN_LOG_LEVEL" default.logLevel).toCapitals }

end Settings

end Formwright
