import Formwright.Text.Basic

/-!
Escaping of captions. A backslash goes before every apostrophe and then before
every double quote; no other code point is touched, backslashes included, so
escaping twice escapes twice.
-/

namespace Formwright.Text

def backslash : CodePoint := .scalar '\\'
def apostrophe : CodePoint := .scalar '\''
def doubleQuote : CodePoint := .scalar '"'

/-- A backslash before every occurrence of `mark`. -/
def guardMark (mark : CodePoint) : Text → Text
  | [] => []
  | c :: rest =>
    if c = mark then backslash :: c :: guardMark mark rest else c :: guardMark mark rest

/-- The text as it may stand between quotes of either kind. -/
def escape (t : Text) : Text :=
  guardMark doubleQuote (guardMark apostrophe t)

/-- The results of escaping once, twice and so on up to `times`. -/
def escapes (t : Text) : (times : Nat) → List Text
  | 0 => []
  | times + 1 => t.escape :: escapes t.escape times

theorem guardMark_append (mark : CodePoint) (s t : Text) :
    guardMark mark (s ++ t) = guardMark mark s ++ guardMark mark t := by
  induction s with
  | nil => rfl
  | cons c s ih => by_cases h : c = mark <;> simp [guardMark, h, ih]

theorem escape_append (s t : Text) : escape (s ++ t) = escape s ++ escape t := by
  simp [escape, guardMark_append]

end Formwright.Text
