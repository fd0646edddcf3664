import Formwright.Proofs.Number.Signs
import Formwright.Proofs.Text.Escape

/-!
Properties that generated text takes over from the texts that go into it. What
is generated is fixed text, printable ASCII throughout, with given texts framed
by it; the given texts are escaped or stand behind a prompt. A property of given
texts and one of generated texts that fit these steps are a `Framing`, and the
layouts are gone through once for all framings.
-/

namespace Formwright

namespace CodePoint

/-- The printable signs of ASCII. -/
def IsPlain (c : CodePoint) : Prop :=
  32 ≤ c.value ∧ c.value < 127

instance (c : CodePoint) : Decidable c.IsPlain :=
  inferInstanceAs (Decidable (_ ∧ _))

theorem IsPlain.isScalar {c : CodePoint} (h : c.IsPlain) : c.isScalar = true := by
  cases c with
  | scalar c => rfl
  | surrogate offset =>
    have hlt := h.2
    simp only [value] at hlt
    omega

theorem IsNumberSign.isPlain {c : CodePoint} (h : c.IsNumberSign) : c.IsPlain := by
  rcases h with hdigit | hmark
  · simp only [isDigit, digit?] at hdigit
    split at hdigit
    · rename_i hrange
      exact ⟨by omega, by omega⟩
    · cases hdigit
  · have hall : ∀ c ∈ numberMarks, c.IsPlain := by decide
    exact hall c hmark

end CodePoint

namespace Text

/-- A text of printable ASCII signs only. -/
def IsPlain (t : Text) : Prop :=
  ∀ c ∈ t, c.IsPlain

instance (t : Text) : Decidable t.IsPlain :=
  inferInstanceAs (Decidable (∀ c ∈ t, _))

theorem IsPlain.append {s t : Text} (hs : s.IsPlain) (ht : t.IsPlain) : IsPlain (s ++ t) := by
  intro c hc
  rcases List.mem_append.mp hc with hc | hc
  · exact hs c hc
  · exact ht c hc

theorem IsPlain.newline_not_mem {t : Text} (h : t.IsPlain) : newline ∉ t :=
  fun hmem => absurd (h newline hmem) (by decide)

theorem IsNumeral.isPlain {t : Text} (h : t.IsNumeral) : t.IsPlain :=
  fun c hc => (h c hc).isPlain

theorem isPlain_writeFlag (b : Bool) : (writeFlag b).IsPlain := by
  cases b <;> decide

/-- A property of given texts, and one of generated texts that follows from it step by step. -/
structure Framing (given generated : Text → Prop) : Prop where
  plain : ∀ {t}, IsPlain t → given t
  prompted : ∀ {s t}, IsPlain s → given t → given (s ++ t)
  escaped : ∀ {t}, given t → given t.escape
  fixed : ∀ {t}, IsPlain t → generated t
  append : ∀ {s t}, generated s → generated t → generated (s ++ t)
  framed : ∀ {s v t}, IsPlain s → s ≠ [] → given v → IsPlain t → t ≠ [] →
    generated (s ++ v ++ t)

theorem Framing.joinWith {given generated : Text → Prop} (frame : Framing given generated)
    {separator : Text} {pieces : List Text} (hs : generated separator)
    (h : ∀ t ∈ pieces, generated t) : generated (joinWith separator pieces) := by
  induction pieces with
  | nil => exact frame.fixed (by simp [IsPlain, Text.joinWith])
  | cons piece pieces ih =>
    rw [List.forall_mem_cons] at h
    cases pieces with
    | nil => exact h.1
    | cons next rest => exact frame.append (frame.append h.1 hs) (ih h.2)

/-- Texts on one line make lines. -/
theorem Framing.oneLine : Framing (newline ∉ ·) (newline ∉ ·) where
  plain h := h.newline_not_mem
  prompted hs ht hmem := (List.mem_append.mp hmem).elim hs.newline_not_mem ht
  escaped h := newline_not_mem_escape h
  fixed h := h.newline_not_mem
  append hs ht hmem := (List.mem_append.mp hmem).elim hs ht
  framed hs _ hv ht _ hmem := by
    rcases List.mem_append.mp hmem with hmem | hmem
    · exact (List.mem_append.mp hmem).elim hs.newline_not_mem hv
    · exact ht.newline_not_mem hmem

end Text

end Formwright
