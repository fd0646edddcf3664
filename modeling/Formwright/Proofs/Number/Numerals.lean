import Formwright.Proofs.Number.Limits
import Formwright.Proofs.Number.Signs
import Mathlib.Data.List.Basic
import Mathlib.Data.List.Induction

/-!
Numerals of integers: what a text of digits stands for, and the one form in which
each integer is written. A digit pushed behind a numeral makes ten times the
number and that digit of it, so what was written is read, and what was read is
written, one digit after the other.
-/

namespace Formwright

namespace CodePoint

theorem digit?_digitChar {d : Nat} (h : d < 10) : (scalar d.digitChar).digit? = some d := by
  have hvalue : (scalar d.digitChar).value = 48 + d := Nat.toNat_digitChar_of_lt_ten h
  have hrange : 48 ≤ 48 + d ∧ 48 + d ≤ 57 := by omega
  rw [digit?, hvalue, if_pos hrange, Nat.add_sub_cancel_left]

theorem eq_digitChar_of_digit? {c : CodePoint} {d : Nat} (h : c.digit? = some d) :
    c = .scalar d.digitChar := by
  rw [digit?] at h
  split at h
  · rename_i hrange
    cases h
    cases c with
    | scalar c =>
      rw [value] at hrange ⊢
      refine congrArg scalar (Char.toNat_inj.mp ?_)
      rw [Nat.toNat_digitChar_of_lt_ten (by omega)]
      omega
    | surrogate offset =>
      rw [value] at hrange
      omega
  · cases h

end CodePoint

namespace Numeral

/-- Every number is a digit, or a positive number with a digit pushed behind it. -/
theorem digit_induction {motive : Nat → Prop} (digit : ∀ d < 10, motive d)
    (push : ∀ n d, 0 < n → d < 10 → motive n → motive (10 * n + d)) (n : Nat) : motive n := by
  induction n using Nat.strongRecOn with
  | ind n ih =>
    by_cases hn : n < 10
    · exact digit n hn
    · have hpush := push (n / 10) (n % 10) (by omega) (by omega) (ih (n / 10) (by omega))
      rwa [Nat.div_add_mod] at hpush

end Numeral

namespace Text

theorem ofNat_digit {d : Nat} (hd : d < 10) : ofNat d = [.scalar d.digitChar] := by
  rw [ofNat, Nat.toDigits_of_lt_base hd]
  rfl

theorem ofNat_push {n d : Nat} (hn : 0 < n) (hd : d < 10) :
    ofNat (10 * n + d) = ofNat n ++ ofNat d := by
  rw [ofNat, ← Nat.toDigits_append_toDigits (by decide) hn hd, List.map_append]
  rfl

theorem ofNat_ne_nil (n : Nat) : ofNat n ≠ [] := by
  rw [ofNat, ne_eq, List.map_eq_nil_iff]
  exact Nat.toDigits_ne_nil

theorem eq_zero_of_head?_ofNat {n : Nat} (h : (ofNat n).head? = some (.scalar '0')) : n = 0 := by
  induction n using Numeral.digit_induction with
  | digit d hd =>
    rw [ofNat_digit hd, List.head?_cons, Option.some.injEq] at h
    have hdigit := CodePoint.digit?_digitChar hd
    rw [h] at hdigit
    exact (Option.some.inj hdigit).symm
  | push n d hn hd ih =>
    rw [ofNat_push hn hd, List.head?_append_of_ne_nil _ (ofNat_ne_nil n)] at h
    exact absurd (ih h) (Nat.ne_of_gt hn)

/-- The number that the digits of a text stand for by their places. -/
def digitsValue (t : Text) : Nat :=
  Numeral.valueOf (t.filterMap CodePoint.digit?)

theorem digitsValue_push (t : Text) {d : Nat} (hd : d < 10) :
    digitsValue (t ++ ofNat d) = 10 * digitsValue t + d := by
  simp [digitsValue, Numeral.valueOf, ofNat_digit hd, CodePoint.digit?_digitChar hd]

/-- What is written for a number stands for it. -/
theorem digitsValue_ofNat (n : Nat) : digitsValue (ofNat n) = n := by
  induction n using Numeral.digit_induction with
  | digit d hd => exact (digitsValue_push [] hd).trans (Nat.zero_add d)
  | push n d hn hd ih => rw [ofNat_push hn hd, digitsValue_push _ hd, ih]

/-- Digits without a zero at the front are what is written for their number. -/
theorem ofNat_digitsValue {t : Text} (hne : t ≠ []) (hdigits : ∀ c ∈ t, c.isDigit = true)
    (hzero : t.head? ≠ some (.scalar '0')) : ofNat t.digitsValue = t ∧ 0 < t.digitsValue := by
  induction t using List.reverseRecOn with
  | nil => exact absurd rfl hne
  | append_singleton front c ih =>
    obtain ⟨d, hc⟩ := Option.isSome_iff_exists.mp (hdigits c (by simp))
    have hd := CodePoint.digit?_lt hc
    have hlast : [c] = ofNat d := by
      rw [ofNat_digit hd, CodePoint.eq_digitChar_of_digit? hc]
    rw [hlast, digitsValue_push front hd]
    rcases eq_or_ne front [] with rfl | hfront
    · have hpos : d ≠ 0 := by
        rintro rfl
        exact hzero (congrArg List.head? hlast)
      exact ⟨congrArg ofNat (Nat.zero_add d), by omega⟩
    · -- the front keeps the first digit, so its number is positive and takes another digit
      rw [List.head?_append_of_ne_nil _ hfront] at hzero
      have hdigits' : ∀ e ∈ front, e.isDigit = true :=
        fun e he => hdigits e (List.mem_append_left [c] he)
      obtain ⟨hback, hpos⟩ := ih hfront hdigits' hzero
      rw [ofNat_push hpos hd, hback]
      exact ⟨rfl, by omega⟩

/-- Whether a minus sign leads. -/
def hasMinus (t : Text) : Bool :=
  t.head? == some (.scalar '-')

/-- A text without the minus sign that leads, if one does. -/
def withoutMinus (t : Text) : Text :=
  if t.hasMinus then t.tail else t

/-- The form of the numerals of integers: digits and nothing else, with a minus sign in front of
them or none, and no zero at their front but in the numeral of zero, which has no sign. -/
structure IsWholeNumeral (t : Text) : Prop where
  ne_nil : t.withoutMinus ≠ []
  isDigit : ∀ c ∈ t.withoutMinus, c.isDigit = true
  zero_alone : t.withoutMinus.head? = some (.scalar '0') → t = lit "0"

instance (t : Text) : Decidable t.IsWholeNumeral :=
  decidable_of_iff (t.withoutMinus ≠ [] ∧ (∀ c ∈ t.withoutMinus, c.isDigit = true) ∧
      (t.withoutMinus.head? = some (.scalar '0') → t = lit "0"))
    ⟨fun h => ⟨h.1, h.2.1, h.2.2⟩, fun h => ⟨h.ne_nil, h.isDigit, h.zero_alone⟩⟩

/-- The integer that a numeral stands for. -/
def wholeValue (t : Text) : Int :=
  Numeral.signed t.hasMinus t.withoutMinus.digitsValue

theorem hasMinus_ofNat (n : Nat) : (ofNat n).hasMinus = false := by
  rw [hasMinus, beq_eq_false_iff_ne]
  intro h
  have hdigit := isDigit_of_mem_ofNat (List.mem_of_mem_head? h)
  exact absurd hdigit (by decide)

theorem withoutMinus_ofNat (n : Nat) : (ofNat n).withoutMinus = ofNat n := by
  rw [withoutMinus, hasMinus_ofNat]
  rfl

theorem withoutMinus_ofInt (n : Int) : (ofInt n).withoutMinus = ofNat n.natAbs := by
  cases n with
  | ofNat n => exact withoutMinus_ofNat n
  | negSucc n => rfl

theorem isWholeNumeral_ofInt (n : Int) : (ofInt n).IsWholeNumeral where
  ne_nil := by
    rw [withoutMinus_ofInt]
    exact ofNat_ne_nil _
  isDigit := by
    rw [withoutMinus_ofInt]
    exact fun c => isDigit_of_mem_ofNat
  zero_alone := by
    rw [withoutMinus_ofInt]
    intro h
    rw [Int.natAbs_eq_zero.mp (eq_zero_of_head?_ofNat h)]
    rfl

/-- What is written for an integer stands for it. -/
theorem wholeValue_ofInt (n : Int) : (ofInt n).wholeValue = n := by
  rw [wholeValue, withoutMinus_ofInt, digitsValue_ofNat]
  cases n with
  | ofNat n =>
    have hminus : (ofInt (.ofNat n)).hasMinus = false := hasMinus_ofNat n
    rw [hminus]
    rfl
  | negSucc n => rfl

/-- A numeral is what is written for its integer. -/
theorem IsWholeNumeral.ofInt_wholeValue {t : Text} (h : t.IsWholeNumeral) :
    ofInt t.wholeValue = t := by
  by_cases hzero : t.withoutMinus.head? = some (.scalar '0')
  · rw [h.zero_alone hzero]
    decide
  obtain ⟨hback, hpos⟩ := ofNat_digitsValue h.ne_nil h.isDigit hzero
  obtain ⟨n, hn⟩ := Nat.exists_eq_succ_of_ne_zero (Nat.ne_of_gt hpos)
  rw [wholeValue]
  cases hminus : t.hasMinus with
  | false =>
    rw [withoutMinus, if_neg (by simp [hminus])] at hback ⊢
    exact hback
  | true =>
    -- the digits are not zero, so the number is negative and is written with the sign again
    have hlead : t = .scalar '-' :: t.withoutMinus := by
      rw [hasMinus, beq_iff_eq] at hminus
      obtain ⟨rest, rfl⟩ := List.head?_eq_some_iff.mp hminus
      rfl
    rw [hn] at hback ⊢
    rw [hlead, ← hback]
    rfl

/-- Each integer has one numeral. -/
theorem IsWholeNumeral.eq_of_wholeValue_eq {s t : Text} (hs : s.IsWholeNumeral)
    (ht : t.IsWholeNumeral) (h : s.wholeValue = t.wholeValue) : s = t := by
  rw [← hs.ofInt_wholeValue, h, ht.ofInt_wholeValue]

example : ¬ (lit "1e21").IsWholeNumeral ∧ ¬ (lit "2.0").IsWholeNumeral ∧
    ¬ (lit "007").IsWholeNumeral ∧ ¬ (lit "-0").IsWholeNumeral := by decide

end Text

end Formwright
