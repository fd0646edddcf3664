import Formwright.Text.Printable

/-!
The quoted form of texts and byte sequences in messages. Apostrophes enclose the
content unless it holds an apostrophe and no double quote. What cannot be
printed is spelled by its number.
-/

namespace Formwright

/-- A code point between quotes of the given kind. -/
def CodePoint.escapedIn (c quote : CodePoint) : Text :=
  let n := c.value
  if c = quote ∨ c = .scalar '\\' then [.scalar '\\', c]
  else if c = .scalar '\t' then lit "\\t"
  else if c = .scalar '\n' then lit "\\n"
  else if c = .scalar '\r' then lit "\\r"
  else if c.isPrintable then [c]
  else if n < 0x100 then lit "\\x" ++ Text.ofHex 2 n
  else if n < 0x10000 then lit "\\u" ++ Text.ofHex 4 n
  else lit "\\U" ++ Text.ofHex 8 n

/-- The quote that encloses a content. -/
def quoteFor (content : Text) : CodePoint :=
  if content.contains (.scalar '\'') && !content.contains (.scalar '"') then .scalar '"'
  else .scalar '\''

namespace Text

def quoted (t : Text) : Text :=
  let quote := quoteFor t
  quote :: t.flatMap (fun c => c.escapedIn quote) ++ [quote]

/-- Bytes past ASCII are always spelled by their number. -/
def quotedBytes (bytes : List UInt8) : Text :=
  let content := bytes.map fun b => CodePoint.ofNat b.toNat
  let quote := quoteFor content
  let escaped (c : CodePoint) : Text :=
    if c.value < 0x80 then c.escapedIn quote else lit "\\x" ++ Text.ofHex 2 c.value
  lit "b" ++ quote :: content.flatMap escaped ++ [quote]

end Text

end Formwright
