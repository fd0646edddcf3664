import Formwright.Number.Numeral
import Formwright.Text.Quoted

/-!
What can stop the writing of a component. Items read from mappings only ever
meet the limit on numerals; records whose attributes were replaced unchecked can
meet the others.
-/

namespace Formwright

inductive Fault where
  /-- An attribute or operation is asked of something that lacks it. -/
  | noAttribute (owner name : Text)
  | notIterable (typeName : Text)
  /-- A value that cannot be looked up in a table. -/
  | unhashable (typeName : Text)
  /-- Quotes are to be escaped in a sequence of bytes. -/
  | bytesNotText
  /-- A block of a component at that place is no text. -/
  | blockNotText (index : Nat) (typeName : Text)
  /-- Something other than text is to be read as a document. -/
  | notDocument (typeName : Text)
  /-- An integer has more digits than may be written. -/
  | numeralTooLong
  /-- The width of indentation is no machine word. -/
  | widthNotWord
  /-- The width of indentation is more than memory can hold. -/
  | widthPastMemory
  /-- What was called is no operation. -/
  | notCallable (typeName : Text)
  deriving DecidableEq

namespace Fault

def message : Fault → Text
  | noAttribute owner name => lit "'" ++ owner ++ lit "' object has no attribute " ++ name.quoted
  | notIterable typeName => lit "'" ++ typeName ++ lit "' object is not iterable"
  | unhashable typeName => lit "unhashable type: '" ++ typeName ++ lit "'"
  | bytesNotText => lit "a bytes-like object is required, not 'str'"
  | blockNotText index typeName =>
    lit "sequence item " ++ Text.ofNat index ++ lit ": expected str instance, " ++ typeName ++
      lit " found"
  | notDocument typeName =>
    lit "the JSON object must be str, bytes or bytearray, not " ++ typeName
  | numeralTooLong =>
    lit "Exceeds the limit (" ++ Text.ofNat Numeral.digitLimit ++
      lit " digits) for integer string conversion; use sys.set_int_max_str_digits() to increase the limit"
  | widthNotWord => lit "cannot fit 'int' into an index-sized integer"
  | widthPastMemory => []
  | notCallable typeName => lit "'" ++ typeName ++ lit "' object is not callable"

end Fault

/-- The numeral of an integer within the limit. -/
def writeInt (n : Int) : Except Fault Text :=
  match Numeral.ofInt? n with
  | some t => .ok t
  | none => .error .numeralTooLong

end Formwright
