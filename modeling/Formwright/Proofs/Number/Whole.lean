import Formwright.Proofs.Number.Nearest
import Formwright.Proofs.Number.Numerals

/-!
Whole numbers in markup. An integer and a real number without a fractional part
are written by different rules, and a real number may be larger than any machine
word, but none has more digits than an integer may have. So both rules come to the
one numeral of the integer that is meant, and nothing of the number is lost.
-/

namespace Formwright

namespace Magnitude

theorem toRat_nonneg (x : Magnitude) : 0 ≤ x.toRat :=
  mul_nonneg x.mantissa.cast_nonneg x.gap_pos.le

/-- No magnitude has as many digits in front of the point as an integer may have. -/
theorem toRat_lt_tooLong (x : Magnitude) : x.toRat < (Numeral.tooLong : ℕ) := by
  have hlimit := x.add_gap_le_limit
  have hgap := x.gap_pos
  calc x.toRat < limit := by linarith
    _ ≤ 10 ^ 1024 := pow_le_pow_left₀ (by norm_num) (by norm_num) 1024
    _ ≤ 10 ^ Numeral.digitLimit := pow_le_pow_right₀ (by norm_num) (by decide)
    _ = (Numeral.tooLong : ℕ) := by
      rw [Numeral.tooLong, tenTo_eq]
      push_cast
      rfl

end Magnitude

theorem Numeral.cast_signed (negative : Bool) (n : ℕ) :
    (signed negative n : ℚ) = if negative then -(n : ℚ) else n := by
  cases negative <;> simp [signed]

namespace Double

variable {x : Double} {n : ℤ}

/-- The number that is meant, if it is one and finite. -/
def toRat? : Double → Option ℚ
  | nan | infinite _ => none
  | finite negative x => some (if negative then -x.toRat else x.toRat)

/-- The negative number of the greatest mantissa and the greatest exponent. -/
def least : Double :=
  ofScaled true 9007199254740991 971

/-- The integer equal to it, multiplied out. -/
def leastInteger : ℤ :=
  -(9007199254740991 * twoTo 971 : ℕ)

theorem natAbs_of_toRat? {negative : Bool} {x : Magnitude}
    (h : (finite negative x).toRat? = some (n : ℚ)) : x.toRat = n.natAbs := by
  have hvalue : (if negative then -x.toRat else x.toRat) = n := Option.some.inj h
  have habs : |(if negative then -x.toRat else x.toRat)| = x.toRat := by
    cases negative
    · exact abs_of_nonneg x.toRat_nonneg
    · exact (abs_neg x.toRat).trans (abs_of_nonneg x.toRat_nonneg)
  rw [← habs, hvalue, Nat.cast_natAbs, Int.cast_abs]

theorem toInt?_finite (negative : Bool) (x : Magnitude) :
    (finite negative x).toInt? = x.toNat?.map (Numeral.signed negative) := by
  rw [toInt?]
  cases x.toNat? <;> rfl

theorem toInt?_eq_some_iff : x.toInt? = some n ↔ x.toRat? = some (n : ℚ) := by
  cases x with
  | nan => exact iff_of_false nofun nofun
  | infinite negative => exact iff_of_false nofun nofun
  | finite negative x =>
    rw [toInt?_finite, Option.map_eq_some_iff]
    constructor
    · rintro ⟨k, hk, rfl⟩
      rw [toRat?, Magnitude.toNat?_eq_some_iff.mp hk, Numeral.cast_signed]
    · intro h
      have hnat := natAbs_of_toRat? h
      refine ⟨n.natAbs, Magnitude.toNat?_eq_some_iff.mpr hnat, ?_⟩
      rw [toRat?, hnat, ← Numeral.cast_signed, Option.some.injEq] at h
      exact Int.cast_inj.mp h

theorem natAbs_lt_tooLong (h : x.toRat? = some (n : ℚ)) : n.natAbs < Numeral.tooLong := by
  cases x with
  | nan => cases h
  | infinite negative => cases h
  | finite negative x =>
    have hlt := x.toRat_lt_tooLong
    rw [natAbs_of_toRat? h] at hlt
    exact_mod_cast hlt

end Double

namespace Number

variable {x y : Number}

/-- The number that is meant, if it is one and finite. -/
def toRat? : Number → Option ℚ
  | whole n => some n
  | real x => x.toRat?

/-- The whole numbers that are written in full: the integers within the limit on digits, and the
real numbers without a fractional part, however large. -/
def IsWhole : Number → Prop
  | whole n => (Nat.toDigits 10 n.natAbs).length ≤ Numeral.digitLimit
  | real x => ∃ n : ℤ, x.toRat? = some (n : ℚ)

theorem isWhole_whole_iff {n : ℤ} : (whole n).IsWhole ↔ n.natAbs < Numeral.tooLong := by
  rw [Numeral.tooLong, tenTo_eq]
  exact Nat.length_toDigits_le_iff (by decide) (by decide)

/-- A real number without a fractional part is written like the integer that it equals. -/
theorem inMarkup_real_eq_whole {x : Double} {n : ℤ} (h : x.toRat? = some (n : ℚ)) :
    (real x).inMarkup = (whole n).inMarkup := by
  rw [inMarkup_whole (Double.natAbs_lt_tooLong h), inMarkup, Double.inMarkup,
    Double.toInt?_eq_some_iff.mpr h]

theorem IsWhole.exists_inMarkup (hx : x.IsWhole) :
    ∃ n : ℤ, x.toRat? = some (n : ℚ) ∧ x.inMarkup = .ok (Text.ofInt n) := by
  cases x with
  | whole n => exact ⟨n, rfl, inMarkup_whole (isWhole_whole_iff.mp hx)⟩
  | real x =>
    obtain ⟨n, hn⟩ := hx
    rw [inMarkup_real_eq_whole hn]
    exact ⟨n, hn, inMarkup_whole (Double.natAbs_lt_tooLong hn)⟩

/-- A whole number is written as a numeral that stands for the very number. -/
theorem IsWhole.exists_numeral (hx : x.IsWhole) :
    ∃ t, x.inMarkup = .ok t ∧ t.IsWholeNumeral ∧ x.toRat? = some (t.wholeValue : ℚ) := by
  obtain ⟨n, hn, hmarkup⟩ := hx.exists_inMarkup
  refine ⟨Text.ofInt n, hmarkup, Text.isWholeNumeral_ofInt n, ?_⟩
  rw [hn, Text.wholeValue_ofInt]

/-- Whole numbers are written exactly: the text is a numeral of digits alone and stands for the very
number, and two of them have one text only if they are the same number, be they integers or real
numbers. -/
theorem inMarkup_exact (hx : x.IsWhole) (hy : y.IsWhole) :
    (∃ t, x.inMarkup = .ok t ∧ t.IsWholeNumeral ∧ x.toRat? = some (t.wholeValue : ℚ)) ∧
      (x.inMarkup = y.inMarkup ↔ x.toRat? = y.toRat?) := by
  refine ⟨hx.exists_numeral, ?_⟩
  obtain ⟨s, hs, hsnumeral, hsvalue⟩ := hx.exists_numeral
  obtain ⟨t, ht, htnumeral, htvalue⟩ := hy.exists_numeral
  rw [hs, ht, hsvalue, htvalue, Except.ok.injEq, Option.some.injEq, Int.cast_inj]
  exact ⟨congrArg Text.wholeValue, hsnumeral.eq_of_wholeValue_eq htnumeral⟩

/-- The least finite real number, of 309 digits, and the integer that it equals. -/
theorem inMarkup_exact_least :
    (real .least).IsWhole ∧ (whole Double.leastInteger).IsWhole ∧
      (∃ t, (real .least).inMarkup = .ok t ∧ t.IsWholeNumeral ∧
        (real .least).toRat? = some (t.wholeValue : ℚ)) ∧
      (real .least).inMarkup = (whole Double.leastInteger).inMarkup ∧
      (real .least).toRat? = (whole Double.leastInteger).toRat? := by
  have hvalue : Double.least.toRat? = some (Double.leastInteger : ℚ) :=
    Double.toInt?_eq_some_iff.mp (by decide +kernel)
  have hreal : (real .least).IsWhole := ⟨_, hvalue⟩
  have hwhole : (whole Double.leastInteger).IsWhole :=
    isWhole_whole_iff.mpr (Double.natAbs_lt_tooLong hvalue)
  obtain ⟨hnumeral, hsame⟩ := inMarkup_exact hreal hwhole
  exact ⟨hreal, hwhole, hnumeral, hsame.mpr hvalue, hvalue⟩

/-- Zero is written without a sign, whichever sign the real number has. -/
example : (Double.finite true .zero).inMarkup = lit "0" := by decide +kernel

end Number

end Formwright
