import Formwright.Text.Basic

/-!
UTF-8: how many bytes a code point takes, and the text that a byte sequence
spells. Overlong forms, halves of surrogate pairs and values past U+10FFFF are
not UTF-8.
-/

namespace Formwright

/-- The number of bytes that a code point takes. -/
def CodePoint.utf8Size (c : CodePoint) : Nat :=
  if c.value < 0x80 then 1
  else if c.value < 0x800 then 2
  else if c.value < 0x10000 then 3
  else 4

/-- The bytes of a code point. Half a surrogate pair is written like any other code point of its
size, which no reader of UTF-8 takes. -/
def CodePoint.utf8Bytes (c : CodePoint) : List UInt8 :=
  let n := c.value
  let tail (place : Nat) : UInt8 := .ofNat (0x80 + n / place % 64)
  if n < 0x80 then [.ofNat n]
  else if n < 0x800 then [.ofNat (0xC0 + n / 64), tail 1]
  else if n < 0x10000 then [.ofNat (0xE0 + n / 4096), tail 64, tail 1]
  else [.ofNat (0xF0 + n / 262144), tail 4096, tail 64, tail 1]

namespace Text

def utf8Size (t : Text) : Nat :=
  t.foldl (fun size c => size + c.utf8Size) 0

/-- The longest beginning that takes at most `size` bytes. -/
def takeUtf8 (size : Nat) : Text → Text
  | [] => []
  | c :: rest => if c.utf8Size ≤ size then c :: takeUtf8 (size - c.utf8Size) rest else []

/-- The longest end that takes at most `size` bytes. -/
def takeEndUtf8 (size : Nat) (t : Text) : Text :=
  (takeUtf8 size t.reverse).reverse

def tailBits? (b : UInt8) : Option Nat :=
  if 0x80 ≤ b.toNat ∧ b.toNat < 0xC0 then some (b.toNat - 0x80) else none

/-- The text that a sequence of bytes spells in UTF-8. -/
def ofUtf8? : List UInt8 → Option Text
  | [] => some []
  | a :: rest =>
    if a.toNat < 0x80 then do
      return CodePoint.ofNat a.toNat :: (← ofUtf8? rest)
    else if a.toNat < 0xC2 then none
    else if a.toNat < 0xE0 then
      match rest with
      | b :: rest => do
        let x ← tailBits? b
        return CodePoint.ofNat ((a.toNat - 0xC0) * 64 + x) :: (← ofUtf8? rest)
      | _ => none
    else if a.toNat < 0xF0 then
      match rest with
      | b :: c :: rest => do
        let x ← tailBits? b
        let y ← tailBits? c
        let n := ((a.toNat - 0xE0) * 64 + x) * 64 + y
        if n < 0x800 ∨ (0xD800 ≤ n ∧ n < 0xE000) then none
        else return CodePoint.ofNat n :: (← ofUtf8? rest)
      | _ => none
    else if a.toNat < 0xF5 then
      match rest with
      | b :: c :: d :: rest => do
        let x ← tailBits? b
        let y ← tailBits? c
        let z ← tailBits? d
        let n := (((a.toNat - 0xF0) * 64 + x) * 64 + y) * 64 + z
        if n < 0x10000 ∨ 0x10FFFF < n then none
        else return CodePoint.ofNat n :: (← ofUtf8? rest)
      | _ => none
    else none

end Text

end Formwright
