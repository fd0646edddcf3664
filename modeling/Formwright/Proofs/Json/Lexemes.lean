import Formwright.Proofs.Json.Grammar
import Formwright.Text.Blank
import Mathlib.Data.List.TakeWhile

/-!
What blanks, words and numbers take off the text in front of them: only signs
that neither quote nor open or close anything. Of the numbers, the integers are
within the limit on digits.
-/

namespace Formwright

/-- Whether a sign neither quotes nor opens or closes an array or an object. -/
def CodePoint.IsInert (c : CodePoint) : Prop :=
  c ∉ lit "\"[]\x7b\x7d"

instance (c : CodePoint) : Decidable c.IsInert :=
  inferInstanceAs (Decidable (_ ∉ _))

theorem CodePoint.isInert_of_isDigit {c : CodePoint} (h : c.isDigit = true) : c.IsInert := by
  intro hmem
  have hall : ∀ c ∈ lit "\"[]\x7b\x7d", c.isDigit = false := by decide
  rw [hall c hmem] at h
  cases h

namespace Text

/-- Whether `rest` is what is left of a text behind some inert signs. -/
def Passes (t rest : Text) : Prop :=
  ∃ s, t = s ++ rest ∧ ∀ c ∈ s, c.IsInert

namespace Passes

theorem refl (t : Text) : t.Passes t :=
  ⟨[], rfl, by simp⟩

theorem trans {t behind rest : Text} (h : t.Passes behind) (hbehind : behind.Passes rest) :
    t.Passes rest := by
  obtain ⟨first, rfl, hfirst⟩ := h
  obtain ⟨second, rfl, hsecond⟩ := hbehind
  refine ⟨first ++ second, by rw [List.append_assoc], ?_⟩
  intro c hc
  rcases List.mem_append.mp hc with hc | hc
  · exact hfirst c hc
  · exact hsecond c hc

theorem cons {c : CodePoint} (h : c.IsInert) (rest : Text) : Passes (c :: rest) rest :=
  ⟨[c], rfl, by simpa using h⟩

theorem dropWhile {p : CodePoint → Bool} (h : ∀ c, p c = true → c.IsInert) (t : Text) :
    t.Passes (t.dropWhile p) :=
  ⟨t.takeWhile p, List.takeWhile_append_dropWhile.symm,
    fun c hc => h c (List.mem_takeWhile_imp hc)⟩

theorem drop {s t : Text} (h : s <+: t) (hs : ∀ c ∈ s, c.IsInert) : t.Passes (t.drop s.length) :=
  ⟨s, (List.prefix_iff_eq_append.mp h).symm, hs⟩

theorem suffix {t rest : Text} (h : t.Passes rest) : rest <:+ t := by
  obtain ⟨s, rfl, -⟩ := h
  exact List.suffix_append s rest

end Passes

theorem after?_eq_some {word t rest : Text} (h : after? word t = some rest) :
    t = word ++ rest := by
  induction word generalizing t with
  | nil => exact Option.some.inj h
  | cons c word ih =>
    cases t with
    | nil => cases h
    | cons d t =>
      rw [after?] at h
      split at h
      · rename_i heq
        rw [List.cons_append, heq, ih h]
      · cases h

end Text

open Text (Passes)

theorem Numeral.splitSign_passes (t : Text) : t.Passes (splitSign t).2 := by
  unfold splitSign
  split
  · exact .cons (by decide) _
  · exact .cons (by decide) _
  · exact .refl _

namespace Json

theorem isInert_of_isBlank {c : CodePoint} (h : isBlank c = true) : c.IsInert := by
  simp only [isBlank, Bool.or_eq_true, beq_iff_eq] at h
  rcases h with ((rfl | rfl) | rfl) | rfl <;> decide

theorem skipBlanks_passes (t : Text) : t.Passes (skipBlanks t) :=
  .dropWhile (fun _ => isInert_of_isBlank) t

theorem digits_passes (t : Text) : t.Passes (t.dropWhile CodePoint.isDigit) :=
  .dropWhile (fun _ => CodePoint.isInert_of_isDigit) t

theorem readWord?_eq_some {t rest : Text} {j : Json} (h : readWord? t = some (j, rest)) :
    ∃ word, (word, j) ∈ words ∧ t = word ++ rest := by
  obtain ⟨⟨word, value⟩, hmem, hword⟩ := List.exists_of_findSome?_eq_some h
  obtain ⟨behind, hbehind, hpair⟩ := Option.map_eq_some_iff.mp hword
  cases hpair
  exact ⟨word, hmem, Text.after?_eq_some hbehind⟩

theorem readWord?_passes {t rest : Text} {j : Json} (h : readWord? t = some (j, rest)) :
    t.Passes rest := by
  obtain ⟨word, hmem, rfl⟩ := readWord?_eq_some h
  have hall : ∀ entry ∈ words, ∀ c ∈ entry.1, c.IsInert := by
    simp only [words, List.forall_mem_cons]
    decide
  exact ⟨word, rfl, hall _ hmem⟩

theorem takeFraction_passes {t digits rest : Text} (h : takeFraction t = some (digits, rest)) :
    t.Passes rest := by
  rw [takeFraction.eq_def] at h
  split at h
  · simp only at h
    split at h
    · rename_i hpoint
      cases h
      rw [hpoint.1]
      exact .trans (.cons (by decide) _) (digits_passes _)
    · cases h
  · cases h

theorem takeExponent_passes {t rest : Text} {exponent : Int}
    (h : takeExponent t = some (exponent, rest)) : t.Passes rest := by
  rw [takeExponent.eq_def] at h
  split at h
  · rename_i c behind
    split at h
    · rename_i hmark
      have hinert : c.IsInert := by
        rcases hmark with rfl | rfl <;> decide
      simp only at h
      split at h
      · cases h
      · cases h
        exact (Passes.cons hinert behind).trans
          ((Numeral.splitSign_passes behind).trans (digits_passes _))
    · cases h
  · cases h

/-- The text in front of a number, and the integer it spells if it spells one. -/
theorem readNumber_eq_ok {limits : Limits} {t rest : Text} {j : Json}
    (h : readNumber limits t = .ok (j, rest)) :
    t.Passes rest ∧
      ((∃ x, j = .float x) ∨ ∃ (negative : Bool) (digits : Text), digits.length ≤ limits.digits ∧
        j = .int (Numeral.signed negative
          (Numeral.valueOf (digits.filterMap CodePoint.digit?)))) := by
  unfold readNumber at h
  split at h
  rename_i negative body hsign
  have hbody : t.Passes body := by
    split at hsign
    · cases hsign
      exact .cons (by decide) _
    · cases hsign
      exact .refl _
  extract_lets whole front at h
  have hwhole : whole <+: body ∧ ∀ c ∈ whole, c.IsInert := by
    simp only [whole]
    split
    · exact ⟨List.prefix_append _ _, by decide⟩
    · refine ⟨List.takeWhile_prefix _, ?_⟩
      intro c hc
      exact CodePoint.isInert_of_isDigit (List.mem_takeWhile_imp hc)
  have hfront : t.Passes front := hbody.trans (.drop hwhole.1 hwhole.2)
  split at h
  · cases h
  split at h
  rename_i fraction behind hasFraction hfraction
  have hbehind : t.Passes behind := by
    split at hfraction
    · rename_i hsome
      cases hfraction
      exact hfront.trans (takeFraction_passes hsome)
    · cases hfraction
      exact hfront
  split at h
  rename_i exponent after hasExponent hexponent
  have hafter : t.Passes after := by
    split at hexponent
    · rename_i hsome
      cases hexponent
      exact hbehind.trans (takeExponent_passes hsome)
    · cases hexponent
      exact hbehind
  split at h
  · cases h
    exact ⟨hafter, .inl ⟨_, rfl⟩⟩
  split at h
  · cases h
  · rename_i hlimit
    cases h
    exact ⟨hafter, .inr ⟨negative, whole, Nat.le_of_not_lt hlimit, rfl⟩⟩

theorem readString_suffix {start reversed t s rest : Text} {after : Bool}
    (h : readString start after reversed t = .ok (s, rest)) : rest <:+ t := by
  fun_induction readString start after reversed t with
  | case1 | case3 | case5 | case6 | case8 | case9 => cases h
  | case2 _ _ tail =>
    cases h
    exact List.suffix_cons _ _
  | case4 _ _ a b c d next tail unit hunit hslash ih =>
    exact (ih h).trans (List.suffix_append [.scalar '\\', .scalar 'u', a, b, c, d] _)
  | case7 _ _ e tail hunit c hsimple hslash ih =>
    exact (ih h).trans (List.suffix_append [.scalar '\\', e] _)
  | case10 _ _ c tail hquote hslash hcontrol ih =>
    exact (ih h).trans (List.suffix_cons c tail)

theorem skipBlanks_suffix (t : Text) : skipBlanks t <:+ t :=
  (skipBlanks_passes t).suffix

theorem suffix_of_skipBlanks {t rest : Text} {c : CodePoint} (h : skipBlanks t = c :: rest) :
    rest <:+ t :=
  (List.suffix_cons c rest).trans (h ▸ skipBlanks_suffix t)

/-- The value of a member stands behind its name. -/
theorem value_suffix {start body name behind spelled : Text}
    (hname : readString start false [] body = .ok (name, behind))
    (hcolon : skipBlanks behind = .scalar ':' :: spelled) : skipBlanks spelled <:+ body := by
  have hspelled := (suffix_of_skipBlanks hcolon).trans (readString_suffix hname)
  exact (skipBlanks_suffix spelled).trans hspelled

/-- What is read is read from the front. -/
theorem Reads.suffix {limits : Limits} {goal : Goal} {t rest : Text} {j : Json}
    (h : Reads limits goal t j rest) : rest <:+ t := by
  induction h with
  | text hstring => exact (readString_suffix hstring).trans (List.suffix_cons _ _)
  | word hword => exact (readWord?_passes hword).suffix
  | number hnumber => exact (readNumber_eq_ok hnumber).1.suffix
  | emptyArray hclose | emptyObject hclose =>
    exact (suffix_of_skipBlanks hclose).trans (List.suffix_cons _ _)
  | array hitems ih | object hmembers ih =>
    exact (ih.trans (skipBlanks_suffix _)).trans (List.suffix_cons _ _)
  | lastItem hitem hclose ih => exact (suffix_of_skipBlanks hclose).trans ih
  | nextItem hitem hcomma hitems ih ihrest =>
    exact (ihrest.trans (skipBlanks_suffix _)).trans ((suffix_of_skipBlanks hcomma).trans ih)
  | lastMember hname hcolon hvalue hclose ih =>
    have hafter := ih.trans (value_suffix hname hcolon)
    exact ((suffix_of_skipBlanks hclose).trans hafter).trans (List.suffix_cons _ _)
  | nextMember hname hcolon hvalue hcomma hmembers ih ihrest =>
    have hafter := ih.trans (value_suffix hname hcolon)
    have hnext := (suffix_of_skipBlanks hcomma).trans hafter
    exact ((ihrest.trans (skipBlanks_suffix _)).trans hnext).trans (List.suffix_cons _ _)

theorem Reads.isObject {limits : Limits} {before : List (Text × Json)} {t rest : Text} {j : Json}
    (h : Reads limits (.members before) t j rest) : ∃ members, j = .object members := by
  generalize hgoal : Goal.members before = goal at h
  induction h generalizing before with
  | lastMember => exact ⟨_, rfl⟩
  | nextMember hname hcolon hvalue hcomma hmembers ihvalue ih => exact ih rfl
  | text | word | number | emptyArray | array | emptyObject | object | lastItem | nextItem =>
    cases hgoal

theorem Reads.bracket_mem {limits : Limits} {t rest : Text} {items : List Json}
    (h : Reads limits .value t (.array items) rest) : .scalar '[' ∈ t := by
  cases h with
  | word hword =>
    obtain ⟨word, hmem, -⟩ := readWord?_eq_some hword
    simp [words] at hmem
  | number hnumber =>
    rcases (readNumber_eq_ok hnumber).2 with ⟨x, hx⟩ | ⟨negative, digits, -, hn⟩
    · cases hx
    · cases hn
  | emptyArray | array => exact List.mem_cons_self
  | object hmembers =>
    obtain ⟨members, hobject⟩ := hmembers.isObject
    cases hobject

/-- A text that spells an array is not blank. -/
theorem not_isBlank_of_read {t : Text} {items : List Json} (h : read t = .ok (.array items)) :
    t.isBlank = false := by
  obtain ⟨rest, hreads⟩ := reads_of_readWithin h
  have hmem : .scalar '[' ∈ t := (skipBlanks_suffix t).subset hreads.bracket_mem
  rw [Text.isBlank, List.all_eq_false]
  exact ⟨.scalar '[', hmem, by decide⟩

end Json

end Formwright
