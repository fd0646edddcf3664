import Formwright.Proofs.Number.Grid
import Formwright.Proofs.Number.Numerals

/-!
Decimals laid out for a script and for markup. A script has an exponent only from
ten to the twenty-first on and below a millionth; markup has one, of two digits or
more, below a ten-thousandth already. Both write the same digits, so two layouts
that differ are told apart by a mark or by their lengths.
-/

namespace Formwright

open NumberStyle (zeros)

namespace Text

theorem ofNat_injective : Function.Injective Text.ofNat :=
  Function.LeftInverse.injective digitsValue_ofNat

theorem ofNat_mul_ten_pow {n : ℕ} (hn : 0 < n) (k : ℕ) :
    Text.ofNat (n * 10 ^ k) = Text.ofNat n ++ zeros k := by
  induction k with
  | zero => simp [zeros]
  | succ k ih =>
    have hpos : 0 < n * 10 ^ k := Nat.mul_pos hn (Nat.pow_pos (by decide))
    have hproduct : n * 10 ^ (k + 1) = 10 * (n * 10 ^ k) + 0 := by ring
    rw [hproduct, ofNat_push hpos (by decide), ih, List.append_assoc, zeros, zeros,
      List.replicate_succ']
    rfl

theorem not_mem_ofNat {c : CodePoint} (hc : c.isDigit = false) (n : ℕ) : c ∉ Text.ofNat n :=
  fun hmem => by simp [isDigit_of_mem_ofNat hmem] at hc

theorem length_ofNat_of_lt {n : ℕ} (h : n < 10) : (Text.ofNat n).length = 1 := by
  rw [ofNat_digit h]
  rfl

theorem two_le_length_ofNat {n : ℕ} (h : 10 ≤ n) : 2 ≤ (Text.ofNat n).length := by
  by_contra hlt
  have hle : (Nat.toDigits 10 n).length ≤ 1 := by
    rw [← List.length_map (f := CodePoint.scalar)]
    exact Nat.lt_succ_iff.mp (not_le.mp hlt)
  have hsmall := (Nat.length_toDigits_le_iff (by decide) (by decide)).mp hle
  omega

end Text

namespace Decimal

variable {d : Decimal}

/-- The digits of a decimal with the point behind the first `n` of them, where `n` may be more than
there are digits or less than none; with an exponent when `n` is past 21 or below -5. -/
def scriptText (d : Decimal) : Text :=
  let digits := Text.ofNat d.digits
  let n := d.exponent + d.count
  if -5 ≤ n ∧ n ≤ 21 then
    if d.count ≤ n then digits ++ zeros (n - d.count).toNat
    else if 0 < n then digits.take n.toNat ++ lit "." ++ digits.drop n.toNat
    else lit "0." ++ zeros (-n).toNat ++ digits
  else
    (if d.count = 1 then digits else digits.take 1 ++ lit "." ++ digits.drop 1) ++ lit "e" ++
      (if 0 < n then lit "+" else lit "-") ++ Text.ofNat (n - 1).natAbs

theorem length_ofNat_digits (d : Decimal) : (Text.ofNat d.digits).length = d.count :=
  List.length_map _

/-- Without a fraction and with at most 21 digits in all, the text is that of the integer. -/
theorem scriptText_eq_ofNat (hd : 0 < d.digits) (hexponent : 0 ≤ d.exponent)
    (hplain : d.exponent + d.count ≤ 21) :
    d.scriptText = Text.ofNat (d.digits * 10 ^ d.exponent.toNat) := by
  have hpos := d.count_pos
  have hrange : -5 ≤ d.exponent + d.count ∧ d.exponent + d.count ≤ 21 := by omega
  have hwhole : (d.count : ℤ) ≤ d.exponent + d.count := by omega
  simp only [scriptText]
  rw [if_pos hrange, if_pos hwhole, add_sub_cancel_right, Text.ofNat_mul_ten_pow hd]

/-- Digits alone are written only without a fraction and with at most 21 of them. -/
theorem plain_of_scriptText_eq_ofNat {n : ℕ} (h : d.scriptText = Text.ofNat n) :
    0 ≤ d.exponent ∧ d.exponent + d.count ≤ 21 := by
  have hpoint : CodePoint.scalar '.' ∉ d.scriptText := h ▸ Text.not_mem_ofNat (by decide) n
  have hmark : CodePoint.scalar 'e' ∉ d.scriptText := h ▸ Text.not_mem_ofNat (by decide) n
  simp only [scriptText] at hpoint hmark
  split at hpoint
  · rename_i hrange
    rw [if_pos hrange] at hmark
    split at hpoint
    · omega
    · split at hpoint
      · exact absurd (by simp [lit]) hpoint
      · exact absurd (by simp [lit]) hpoint
  · rename_i hrange
    rw [if_neg hrange] at hmark
    exact absurd (by simp [lit]) hmark

/-! The two layouts of a number with a fraction. -/

theorem plainStyle_layout_eq_scriptText (hfraction : d.exponent < 0)
    (hscale : d.exponent + d.count ≤ 16)
    (h : -4 < d.exponent + d.count ∨ d.exponent + d.count ≤ -9) :
    plainStyle.layout d = d.scriptText := by
  have hpos := d.count_pos
  have hdigits := d.length_ofNat_digits
  simp only [NumberStyle.layout, plainStyle, scriptText, hdigits]
  rcases h with hplain | hsmall
  · have hhere : -4 ≤ d.exponent + d.count - 1 ∧ d.exponent + d.count - 1 < 16 := by omega
    have hthere : -5 ≤ d.exponent + d.count ∧ d.exponent + d.count ≤ 21 := by omega
    have hmore : ¬ (d.count : ℤ) ≤ d.exponent + d.count := by omega
    rw [if_pos hhere, if_pos hthere, if_neg hfraction.not_ge, if_neg hmore]
    by_cases hwhole : 0 < d.exponent + d.count
    · have hplace : (d.exponent + d.count - 1).toNat + 1 = (d.exponent + d.count).toNat := by omega
      rw [if_pos (Int.le_sub_one_of_lt hwhole), if_pos hwhole, hplace]
    · have hnone : ¬ 0 ≤ d.exponent + d.count - 1 := by omega
      have hplace : -(d.exponent + d.count - 1) - 1 = -(d.exponent + d.count) := by omega
      rw [if_neg hnone, if_neg hwhole, hplace]
  · have hhere : ¬ (-4 ≤ d.exponent + d.count - 1 ∧ d.exponent + d.count - 1 < 16) := by omega
    have hthere : ¬ (-5 ≤ d.exponent + d.count ∧ d.exponent + d.count ≤ 21) := by omega
    have hminus : d.exponent + d.count - 1 < 0 := by omega
    have hnotplus : ¬ 0 < d.exponent + d.count := by omega
    have hwidth := Text.two_le_length_ofNat (n := (d.exponent + d.count - 1).natAbs) (by omega)
    rw [if_neg hhere, if_neg hthere, if_pos hminus, if_neg hnotplus,
      Nat.sub_eq_zero_of_le hwidth, zeros, List.replicate_zero, List.append_nil]
    by_cases hone : d.count = 1
    · rw [if_neg hone.not_gt, if_pos hone, List.append_nil, List.take_append_drop]
    · rw [if_pos (Nat.lt_of_le_of_ne hpos (Ne.symm hone)), if_neg hone]

/-- From below a ten-thousandth down to a thousand-millionth markup has an exponent where a script
has none, or a longer one. -/
theorem plainStyle_layout_ne_scriptText (hlow : -9 < d.exponent + d.count)
    (hhigh : d.exponent + d.count ≤ -4) : plainStyle.layout d ≠ d.scriptText := by
  intro h
  have hpos := d.count_pos
  have hdigits := d.length_ofNat_digits
  have hlength := congrArg List.length h
  have hwidth := Text.length_ofNat_of_lt (n := (d.exponent + d.count - 1).natAbs) (by omega)
  have hhere : ¬ (-4 ≤ d.exponent + d.count - 1 ∧ d.exponent + d.count - 1 < 16) := by omega
  have hmore : ¬ (d.count : ℤ) ≤ d.exponent + d.count := by omega
  have hminus : d.exponent + d.count - 1 < 0 := by omega
  have hnotplus : ¬ 0 < d.exponent + d.count := by omega
  simp only [NumberStyle.layout, plainStyle, scriptText, hdigits, if_neg hhere, if_neg hmore,
    if_pos hminus, if_neg hnotplus] at hlength
  simp only [List.length_append, List.length_take, List.length_drop, hdigits, hwidth, zeros,
    List.length_replicate, apply_ite List.length] at hlength
  obtain ⟨hpoint, hmark, hsign, hzero⟩ : (lit ".").length = 1 ∧ (lit "e").length = 1 ∧
      (lit "-").length = 1 ∧ (lit "0.").length = 2 := by decide
  rw [hpoint, hmark, hsign, hzero, List.length_nil] at hlength
  -- with a point in front the text is longer, with an exponent it is shorter by a zero
  split_ifs at hlength <;> omega

/-- For a number with a fraction the layouts agree except in five decades. -/
theorem plainStyle_layout_eq_scriptText_iff (hfraction : d.exponent < 0)
    (hscale : d.exponent + d.count ≤ 16) : plainStyle.layout d = d.scriptText ↔
      -4 < d.exponent + d.count ∨ d.exponent + d.count ≤ -9 := by
  constructor
  · intro h
    by_contra hbetween
    exact plainStyle_layout_ne_scriptText (by omega) (by omega) h
  · exact plainStyle_layout_eq_scriptText hfraction hscale

example : plainStyle.layout ⟨125, -8⟩ = lit "1.25e-06" ∧
    scriptText ⟨125, -8⟩ = lit "0.00000125" := by decide

end Decimal

end Formwright
