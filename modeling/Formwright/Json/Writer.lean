import Formwright.Json.Basic
import Formwright.Number.Numeral

/-!
Writing JSON text. A layout fixes the separators and the indentation; texts are
written in ASCII, with pairs of escapes for code points past U+FFFF, unless the
layout lets other code points stand.
-/

namespace Formwright.Json

structure Layout where
  /-- Spaces for each level, or none for a document on one line. -/
  indent : Option Nat
  itemSeparator : Text
  nameSeparator : Text
  asciiOnly : Bool

namespace Layout

/-- One line with a blank behind each comma and colon. -/
def oneLine : Layout := ⟨none, lit ", ", lit ": ", true⟩

/-- A line for every item and member. A negative width indents like zero. -/
def indented (width : Int) : Layout :=
  ⟨some width.toNat, lit ",", lit ": ", true⟩

/-- One line without blanks. -/
def compact : Layout := ⟨none, lit ",", lit ":", false⟩

/-- What stands before the items of a level. -/
def lineBreak (layout : Layout) (level : Nat) : Text :=
  match layout.indent with
  | none => []
  | some width => newline :: List.replicate (level * width) (.scalar ' ')

end Layout

def escapeUnit (n : Nat) : Text :=
  lit "\\u" ++ Text.ofHex 4 n

/-- A code point inside a quoted text. -/
def writeCodePoint (asciiOnly : Bool) (c : CodePoint) : Text :=
  match c with
  | .scalar '"' => lit "\\\""
  | .scalar '\\' => lit "\\\\"
  | .scalar '\n' => lit "\\n"
  | .scalar '\r' => lit "\\r"
  | .scalar '\t' => lit "\\t"
  | .scalar '\x0c' => lit "\\f"
  | .scalar '\x08' => lit "\\b"
  | c =>
    let n := c.value
    if n < 0x20 then escapeUnit n
    else if n < 0x7F ∨ !asciiOnly then [c]
    else if n < 0x10000 then escapeUnit n
    else escapeUnit (0xD800 + (n - 0x10000) / 0x400) ++ escapeUnit (0xDC00 + (n - 0x10000) % 0x400)

def writeText (asciiOnly : Bool) (t : Text) : Text :=
  .scalar '"' :: t.flatMap (writeCodePoint asciiOnly) ++ [.scalar '"']

/-- The style of numbers in JSON text. -/
def numberStyle : NumberStyle :=
  { plainStyle with nan := lit "NaN", infinity := lit "Infinity" }

mutual

/-- The text of a document whose items stand at the given level. -/
def writeAt (layout : Layout) (level : Nat) : Json → Text
  | null => lit "null"
  | bool true => lit "true"
  | bool false => lit "false"
  | int n => Text.ofInt n
  | float x => numberStyle.render x
  | text t => writeText layout.asciiOnly t
  | array [] => lit "[]"
  | array (item :: items) =>
    lit "[" ++ layout.lineBreak (level + 1) ++ writeAt layout (level + 1) item ++
      writeItems layout (level + 1) items ++ layout.lineBreak level ++ lit "]"
  | object [] => lit "\x7b\x7d"
  | object ((name, value) :: members) =>
    lit "\x7b" ++ layout.lineBreak (level + 1) ++ writeText layout.asciiOnly name ++
      layout.nameSeparator ++ writeAt layout (level + 1) value ++
      writeMembers layout (level + 1) members ++ layout.lineBreak level ++ lit "\x7d"

def writeItems (layout : Layout) (level : Nat) : List Json → Text
  | [] => []
  | item :: items =>
    layout.itemSeparator ++ layout.lineBreak level ++ writeAt layout level item ++
      writeItems layout level items

def writeMembers (layout : Layout) (level : Nat) : List (Text × Json) → Text
  | [] => []
  | (name, value) :: members =>
    layout.itemSeparator ++ layout.lineBreak level ++ writeText layout.asciiOnly name ++
      layout.nameSeparator ++ writeAt layout level value ++ writeMembers layout level members

end

def write (layout : Layout) (document : Json) : Text :=
  writeAt layout 0 document

end Formwright.Json
