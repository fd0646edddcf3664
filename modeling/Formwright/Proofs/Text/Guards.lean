import Formwright.Proofs.Text.Escape
import Mathlib.Data.List.Basic

/-!
Escaping and its inverse. In an escaped text every quote comes right behind a backslash;
each text of that form is an escaped one, and dropping the sign in front of each quote
gives back what was escaped. A backslash that was there before does no harm: the one in
front of the quote is the one that escaping put there. The two kinds of quote are guarded
one after the other, and the order does not matter.
-/

namespace Formwright.Text

/-- Whether every quote in a text comes right behind a backslash. -/
def IsEscaped (t : Text) : Prop :=
  ∀ front c behind, t = front ++ c :: behind → IsQuote c → front.getLast? = some backslash

/-- A text without the signs that quotes come right behind. -/
def dropGuards : Text → Text
  | [] => []
  | [c] => [c]
  | c :: d :: rest =>
    if IsQuote d then dropGuards (d :: rest) else c :: dropGuards (d :: rest)

theorem dropGuards_cons {c : CodePoint} {t : Text} (h : ∀ d ∈ t.head?, ¬ IsQuote d) :
    dropGuards (c :: t) = c :: dropGuards t := by
  cases t with
  | nil => rfl
  | cons d t => rw [dropGuards, if_neg (h d rfl)]

theorem dropGuards_cons_quote {c d : CodePoint} (hd : IsQuote d) (t : Text) :
    dropGuards (c :: d :: t) = dropGuards (d :: t) := by
  rw [dropGuards, if_pos hd]

theorem not_isQuote_head?_escape (t : Text) : ∀ d ∈ (escape t).head?, ¬ IsQuote d := by
  intro d hd hquote
  obtain ⟨rest, hrest⟩ := List.head?_eq_some_iff.mp hd
  exact escape_ne_quote_cons hquote t rest hrest

theorem dropGuards_escape (t : Text) : dropGuards (escape t) = t := by
  induction t with
  | nil => rfl
  | cons c t ih =>
    have hrest : dropGuards (c :: escape t) = c :: t := by
      rw [dropGuards_cons (not_isQuote_head?_escape t), ih]
    rw [escape_cons]
    split
    · rename_i hquote
      rw [dropGuards_cons_quote hquote, hrest]
    · exact hrest

theorem isEscaped_nil : IsEscaped [] := by
  intro front c behind h
  simp at h

theorem isEscaped_cons {c : CodePoint} {t : Text} (hc : ¬ IsQuote c) (ht : IsEscaped t) :
    IsEscaped (c :: t) := by
  intro front q behind h hq
  cases front with
  | nil => exact absurd ((List.cons.inj h).1 ▸ hq) hc
  | cons d front =>
    have hlast := ht front q behind (List.cons.inj h).2 hq
    rw [List.getLast?_cons, hlast]
    rfl

/-- A quote behind a backslash keeps a text escaped. -/
theorem isEscaped_backslash_cons {c : CodePoint} {t : Text} (ht : IsEscaped t) :
    IsEscaped (backslash :: c :: t) := by
  intro front q behind h hq
  rcases front with _ | ⟨d, _ | ⟨e, front⟩⟩
  · exact absurd ((List.cons.inj h).1 ▸ hq) not_isQuote_backslash
  · rw [← (List.cons.inj h).1]
    rfl
  · have hlast := ht front q behind (List.cons.inj (List.cons.inj h).2).2 hq
    rw [List.getLast?_cons, List.getLast?_cons, hlast]
    rfl

theorem isEscaped_escape (t : Text) : IsEscaped (escape t) := by
  induction t with
  | nil => exact isEscaped_nil
  | cons c t ih =>
    rw [escape_cons]
    split
    · exact isEscaped_backslash_cons ih
    · rename_i hc
      exact isEscaped_cons hc ih

theorem IsEscaped.not_isQuote_head {c : CodePoint} {t : Text} (h : IsEscaped (c :: t)) :
    ¬ IsQuote c := by
  intro hc
  exact absurd (h [] c t rfl hc) (by simp)

theorem IsEscaped.eq_backslash {c d : CodePoint} {t : Text} (h : IsEscaped (c :: d :: t))
    (hd : IsQuote d) : c = backslash :=
  Option.some.inj (h [c] d t rfl hd)

/-- What an escaped text ends with is escaped, unless it starts with a quote. -/
theorem IsEscaped.of_append {s t : Text} (h : IsEscaped (s ++ t))
    (ht : ∀ d ∈ t.head?, ¬ IsQuote d) : IsEscaped t := by
  intro front q behind heq hq
  cases front with
  | nil => exact absurd hq (ht q (by rw [heq]; rfl))
  | cons d front =>
    have hlast := h (s ++ d :: front) q behind (by rw [heq, List.append_assoc]) hq
    rwa [List.getLast?_append_of_ne_nil _ (List.cons_ne_nil d front)] at hlast

/-- A text whose quotes are guarded comes of escaping what is left without the guards. -/
theorem IsEscaped.escape_dropGuards : ∀ {t : Text}, IsEscaped t → escape (dropGuards t) = t
  | [], _ => rfl
  | [c], h => by
    rw [dropGuards, escape_cons, if_neg h.not_isQuote_head, escape_nil]
  | c :: d :: rest, h => by
    by_cases hd : IsQuote d
    · obtain rfl := h.eq_backslash hd
      -- A quote is no backslash, so the sign behind a quote is no quote.
      have hnext : ∀ e ∈ rest.head?, ¬ IsQuote e := by
        intro e he hquote
        obtain ⟨rest', rfl⟩ := List.head?_eq_some_iff.mp he
        have hlast := h [backslash, d] e rest' rfl hquote
        exact not_isQuote_backslash (Option.some.inj hlast ▸ hd)
      have hrest : IsEscaped rest := IsEscaped.of_append (s := [backslash, d]) h hnext
      rw [dropGuards_cons_quote hd, dropGuards_cons hnext, escape_cons, if_pos hd,
        hrest.escape_dropGuards]
    · have hnext : ∀ e ∈ (d :: rest).head?, ¬ IsQuote e := by
        rintro e ⟨⟩
        exact hd
      have hrest : IsEscaped (d :: rest) := IsEscaped.of_append (s := [c]) h hnext
      rw [dropGuards_cons hnext, escape_cons, if_neg h.not_isQuote_head,
        hrest.escape_dropGuards]

/-- The texts that come of escaping are those whose quotes are guarded. -/
theorem exists_escape_eq_iff {t : Text} : (∃ s, escape s = t) ↔ IsEscaped t := by
  constructor
  · rintro ⟨s, rfl⟩
    exact isEscaped_escape s
  · intro h
    exact ⟨dropGuards t, h.escape_dropGuards⟩

/-- Guarding the one mark does not disturb guarding the other, when neither is a backslash. -/
theorem guardMark_comm {a b : CodePoint} (ha : a ≠ backslash) (hb : b ≠ backslash) (hab : a ≠ b)
    (t : Text) : guardMark a (guardMark b t) = guardMark b (guardMark a t) := by
  induction t with
  | nil => rfl
  | cons c t ih =>
    by_cases hca : c = a
    · have hcb : c ≠ b := fun h => hab (hca.symm.trans h)
      simp [guardMark, hca, hab, hb.symm, ih]
    · by_cases hcb : c = b
      · simp [guardMark, hcb, hab.symm, ha.symm, ih]
      · simp [guardMark, hca, hcb, ih]

end Formwright.Text
