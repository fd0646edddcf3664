import Formwright.Text.Escape

/-!
Escaping sign by sign. Only the two quotes change, each into itself behind a
backslash, so no escaped text starts with a quote; hence no two texts have one
escaped form.
-/

namespace Formwright.Text

/-- The two signs that escaping guards. -/
def IsQuote (c : CodePoint) : Prop :=
  c = apostrophe ∨ c = doubleQuote

instance (c : CodePoint) : Decidable (IsQuote c) :=
  inferInstanceAs (Decidable (_ ∨ _))

theorem not_isQuote_backslash : ¬ IsQuote backslash := by decide

theorem escape_nil : escape [] = [] := rfl

theorem escape_cons (c : CodePoint) (t : Text) :
    escape (c :: t) = if IsQuote c then backslash :: c :: escape t else c :: escape t := by
  have hb : backslash ≠ doubleQuote := by decide
  have ha : apostrophe ≠ doubleQuote := by decide
  by_cases hc : c = apostrophe
  · subst hc
    simp [escape, guardMark, IsQuote, hb, ha]
  · by_cases hd : c = doubleQuote
    · subst hd
      simp [escape, guardMark, IsQuote, ha.symm]
    · simp [escape, guardMark, IsQuote, hc, hd]

theorem mem_escape {c : CodePoint} {t : Text} (h : c ∈ escape t) : c = backslash ∨ c ∈ t := by
  induction t with
  | nil => exact absurd h (by simp [escape_nil])
  | cons d t ih =>
    rw [escape_cons] at h
    split at h
    · rcases List.mem_cons.mp h with hc | h
      · exact .inl hc
      · rcases List.mem_cons.mp h with hc | h
        · exact .inr (by simp [hc])
        · exact (ih h).imp id (List.mem_cons_of_mem d)
    · rcases List.mem_cons.mp h with hc | h
      · exact .inr (by simp [hc])
      · exact (ih h).imp id (List.mem_cons_of_mem d)

theorem not_mem_escape {c : CodePoint} {t : Text} (hc : c ≠ backslash) (h : c ∉ t) :
    c ∉ escape t := by
  intro hmem
  rcases mem_escape hmem with hb | hmem
  · exact hc hb
  · exact h hmem

theorem newline_not_mem_escape {t : Text} (h : newline ∉ t) : newline ∉ escape t :=
  not_mem_escape (by decide) h

theorem escape_ne_quote_cons {c : CodePoint} (hc : IsQuote c) (s t : Text) :
    escape s ≠ c :: t := by
  intro h
  cases s with
  | nil => simp [escape_nil] at h
  | cons d s =>
    rw [escape_cons] at h
    split at h
    · have hb : backslash = c := (List.cons.inj h).1
      exact not_isQuote_backslash (hb ▸ hc)
    · rename_i hd
      have hdc : d = c := (List.cons.inj h).1
      exact hd (hdc ▸ hc)

/-- Escaping loses nothing. -/
theorem escape_injective {s t : Text} (h : escape s = escape t) : s = t := by
  induction s generalizing t with
  | nil =>
    cases t with
    | nil => rfl
    | cons d t =>
      rw [escape_nil, escape_cons] at h
      split at h <;> simp at h
  | cons c s ih =>
    cases t with
    | nil =>
      rw [escape_nil, escape_cons] at h
      split at h <;> simp at h
    | cons d t =>
      rw [escape_cons, escape_cons] at h
      by_cases hc : IsQuote c <;> by_cases hd : IsQuote d
      · simp only [hc, hd, if_true, List.cons.injEq, true_and] at h
        rw [h.1, ih h.2]
      · simp only [hc, hd, if_true, if_false, List.cons.injEq] at h
        exact absurd h.2.symm (escape_ne_quote_cons hc t _)
      · simp only [hc, hd, if_true, if_false, List.cons.injEq] at h
        exact absurd h.2 (escape_ne_quote_cons hd s _)
      · simp only [hc, hd, if_false, List.cons.injEq] at h
        rw [h.1, ih h.2]

end Formwright.Text
