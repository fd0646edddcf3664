import Formwright.Number.Shortest
import Mathlib.Algebra.Order.Field.Power
import Mathlib.Data.Rat.Cast.Order
import Mathlib.Order.Compare
import Mathlib.Tactic.FieldSimp
import Mathlib.Tactic.Linarith
import Mathlib.Tactic.Positivity
import Mathlib.Tactic.Ring

/-!
Rounding to nearest, told of rational numbers. A number is rounded to the
magnitude that no other is nearer to, and of two that are as near to the one with
an even mantissa; past the largest the next power of two stands in for a
magnitude. The numbers rounded to one magnitude fill an interval, and the test by
cross-multiplication decides it.
-/

namespace Formwright

theorem twoTo_eq (n : Nat) : twoTo n = 2 ^ n :=
  rfl

theorem tenTo_eq (n : Nat) : tenTo n = 10 ^ n :=
  rfl

/-- An integral power as a quotient of powers, one of which is one. -/
theorem zpow_eq_div (b : ℕ) (j : ℤ) :
    (b : ℚ) ^ j = (b ^ j.toNat : ℕ) / (b ^ (-j).toNat : ℕ) := by
  rcases le_total 0 j with hj | hj
  · have hneg : (-j).toNat = 0 := by omega
    obtain ⟨n, rfl⟩ := Int.eq_ofNat_of_zero_le hj
    rw [hneg]
    simp
  · have hpos : j.toNat = 0 := by omega
    obtain ⟨n, hn⟩ := Int.eq_ofNat_of_zero_le (neg_nonneg.mpr hj)
    rw [hpos, hn, ← neg_neg j, hn]
    simp

theorem compare_mul_eq_compare_div {a b c d : ℕ} (hb : 0 < b) (hd : 0 < d) :
    compare (a * d) (c * b) = compare ((a : ℚ) / b) ((c : ℚ) / d) := by
  have hb' : (0 : ℚ) < b := by exact_mod_cast hb
  have hd' : (0 : ℚ) < d := by exact_mod_cast hd
  rcases lt_trichotomy (a * d) (c * b) with h | h | h
  · rw [compare_lt_iff_lt.mpr h, eq_comm, compare_lt_iff_lt, div_lt_div_iff₀ hb' hd']
    exact_mod_cast h
  · rw [compare_eq_iff_eq.mpr h, eq_comm, compare_eq_iff_eq, div_eq_div_iff hb'.ne' hd'.ne']
    exact_mod_cast h
  · rw [compare_gt_iff_gt.mpr h, eq_comm, compare_gt_iff_gt,
      div_lt_div_iff₀ hd' hb']
    exact_mod_cast h

namespace Decimal

/-- The number that a decimal stands for. -/
def toRat (d : Decimal) : ℚ :=
  d.digits * (10 : ℚ) ^ d.exponent

theorem toRat_eq_div (d : Decimal) :
    d.toRat = (d.digits * tenTo d.exponent.toNat : ℕ) / (tenTo (-d.exponent).toNat : ℕ) := by
  have hten := zpow_eq_div 10 d.exponent
  push_cast at hten
  rw [toRat, hten, tenTo_eq, tenTo_eq]
  push_cast
  ring

end Decimal

namespace Magnitude

variable {x y : Magnitude} {v w : ℚ}

/-- The number that a magnitude stands for. -/
def toRat (x : Magnitude) : ℚ :=
  x.mantissa * (2 : ℚ) ^ x.exponent

/-- The distance to the next larger magnitude. -/
def gap (x : Magnitude) : ℚ :=
  2 ^ x.exponent

/-- The distance to the next smaller magnitude. -/
def gapBelow (x : Magnitude) : ℚ :=
  if x.narrowBelow then x.gap / 2 else x.gap

theorem gap_pos (x : Magnitude) : 0 < x.gap :=
  zpow_pos (by norm_num) _

theorem gapBelow_pos (x : Magnitude) : 0 < x.gapBelow := by
  have hgap := x.gap_pos
  unfold gapBelow
  split <;> linarith

theorem gapBelow_le_gap (x : Magnitude) : x.gapBelow ≤ x.gap := by
  have hgap := x.gap_pos
  unfold gapBelow
  split <;> linarith

theorem toRat_eq_mul_gap (x : Magnitude) : x.toRat = x.mantissa * x.gap :=
  rfl

theorem toRat_pos (hx : 0 < x.mantissa) : 0 < x.toRat :=
  mul_pos (by exact_mod_cast hx) x.gap_pos

theorem toRat_eq_div (x : Magnitude) : x.toRat = (x.numerator : ℚ) / x.denominator := by
  have htwo := zpow_eq_div 2 x.exponent
  push_cast at htwo
  rw [toRat, htwo, numerator, denominator, twoTo_eq, twoTo_eq]
  push_cast
  ring

theorem denominator_pos (x : Magnitude) : 0 < x.denominator :=
  Nat.two_pow_pos _

theorem mantissa_le (x : Magnitude) : (x.mantissa : ℚ) ≤ 2 ^ 53 - 1 := by
  have hlt : x.mantissa + 1 ≤ 2 ^ 53 := x.mantissa_lt
  have hcast : (x.mantissa : ℚ) + 1 ≤ 2 ^ 53 := by exact_mod_cast hlt
  linarith

theorem le_mantissa (h : -1074 < x.exponent) : (2 : ℚ) ^ 52 ≤ x.mantissa := by
  have hle : 2 ^ 52 ≤ x.mantissa := x.normal.resolve_left (by omega)
  exact_mod_cast hle

theorem gap_eq_of_exponent_eq (h : y.exponent = x.exponent) : y.gap = x.gap := by
  rw [gap, gap, h]

theorem gap_le_half_of_exponent_lt (h : y.exponent < x.exponent) : y.gap ≤ x.gap / 2 := by
  have hhalf : x.gap / 2 = 2 ^ (x.exponent - 1) := by
    rw [gap, zpow_sub_one₀ (by norm_num)]
    ring
  rw [hhalf]
  exact zpow_le_zpow_right₀ (by norm_num) (by omega)

/-- A magnitude with a smaller exponent lies below the least one with a full mantissa. -/
theorem toRat_le_of_exponent_lt (h : y.exponent < x.exponent) :
    y.toRat ≤ (2 ^ 53 - 1) * (x.gap / 2) :=
  mul_le_mul y.mantissa_le (gap_le_half_of_exponent_lt h) y.gap_pos.le (by norm_num)

theorem le_toRat_of_exponent_lt (h : y.exponent < x.exponent) : 2 ^ 52 * x.gap ≤ x.toRat :=
  mul_le_mul_of_nonneg_right (le_mantissa (by have := y.exponent_ge; omega)) x.gap_pos.le

theorem toRat_lt_of_exponent_lt (h : y.exponent < x.exponent) : y.toRat < x.toRat := by
  have hy := toRat_le_of_exponent_lt h
  have hx := le_toRat_of_exponent_lt h
  have hgap := x.gap_pos
  linarith

/-- On the grid of a smaller exponent a magnitude is a whole number of gaps. -/
theorem exists_toRat_eq_mul_gap (h : x.exponent ≤ y.exponent) :
    ∃ n : ℕ, y.toRat = n * x.gap := by
  refine ⟨y.mantissa * 2 ^ (y.exponent - x.exponent).toNat, ?_⟩
  have hexponent : y.exponent = (y.exponent - x.exponent).toNat + x.exponent := by omega
  rw [toRat, gap]
  conv_lhs => rw [hexponent, zpow_add₀ (by norm_num), zpow_natCast]
  push_cast
  ring

theorem toRat_injective : Function.Injective toRat := by
  intro x y h
  have hexponent : x.exponent = y.exponent := by
    rcases lt_trichotomy x.exponent y.exponent with hlt | heq | hgt
    · exact absurd h (toRat_lt_of_exponent_lt hlt).ne
    · exact heq
    · exact absurd h (toRat_lt_of_exponent_lt hgt).ne'
  have hmantissa : x.mantissa = y.mantissa := by
    rw [toRat_eq_mul_gap, toRat_eq_mul_gap, gap_eq_of_exponent_eq hexponent] at h
    exact_mod_cast mul_right_cancel₀ y.gap_pos.ne' h
  cases x
  cases y
  simp_all

/-! Nothing lies between a magnitude and its neighbours. -/

theorem add_gap_le_of_lt (h : x.toRat < y.toRat) : x.toRat + x.gap ≤ y.toRat := by
  rcases le_or_gt x.exponent y.exponent with hle | hlt
  · obtain ⟨n, hn⟩ := exists_toRat_eq_mul_gap hle
    have hgap := x.gap_pos
    have hmantissa : x.mantissa + 1 ≤ n := by
      rw [hn, toRat_eq_mul_gap] at h
      exact_mod_cast lt_of_mul_lt_mul_right h hgap.le
    have hcast : (x.mantissa : ℚ) + 1 ≤ n := by exact_mod_cast hmantissa
    rw [hn, toRat_eq_mul_gap]
    nlinarith
  · exact absurd h (toRat_lt_of_exponent_lt hlt).not_gt

theorem toRat_le_sub_gap (h : y.toRat < x.toRat) (hexponent : x.exponent ≤ y.exponent) :
    y.toRat ≤ x.toRat - x.gap := by
  obtain ⟨n, hn⟩ := exists_toRat_eq_mul_gap hexponent
  have hgap := x.gap_pos
  have hmantissa : n + 1 ≤ x.mantissa := by
    rw [hn, toRat_eq_mul_gap] at h
    exact_mod_cast lt_of_mul_lt_mul_right h hgap.le
  have hcast : (n : ℚ) + 1 ≤ x.mantissa := by exact_mod_cast hmantissa
  rw [hn, toRat_eq_mul_gap]
  nlinarith

theorem narrowBelow_iff : x.narrowBelow = true ↔ x.mantissa = 2 ^ 52 ∧ -1074 < x.exponent := by
  simp [narrowBelow, twoTo_eq]

theorem toRat_le_sub_gapBelow (h : y.toRat < x.toRat) : y.toRat ≤ x.toRat - x.gapBelow := by
  rcases le_or_gt x.exponent y.exponent with hle | hlt
  · linarith [toRat_le_sub_gap h hle, x.gapBelow_le_gap]
  have hgap := x.gap_pos
  have hbelow := toRat_le_of_exponent_lt hlt
  have hnormal : -1074 < x.exponent := by
    have := y.exponent_ge
    omega
  unfold gapBelow
  split
  · linarith [le_toRat_of_exponent_lt hlt]
  · rename_i hwide
    have hmantissa : 2 ^ 52 + 1 ≤ x.mantissa := by
      have hle : 2 ^ 52 ≤ x.mantissa := x.normal.resolve_left (by omega)
      have hne : x.mantissa ≠ 2 ^ 52 := fun heq => hwide (narrowBelow_iff.mpr ⟨heq, hnormal⟩)
      omega
    have hcast : (2 : ℚ) ^ 52 + 1 ≤ x.mantissa := by exact_mod_cast hmantissa
    rw [toRat_eq_mul_gap x]
    nlinarith

/-- The power of two behind the largest magnitude. -/
def limit : ℚ :=
  2 ^ 1024

theorem limit_eq : limit = 2 ^ 53 * 2 ^ (971 : ℤ) := by
  rw [limit, show (971 : ℤ) = (971 : ℕ) from rfl, zpow_natCast, ← pow_add]

theorem add_gap_le_limit (x : Magnitude) : x.toRat + x.gap ≤ limit := by
  have hmantissa : (x.mantissa : ℚ) + 1 ≤ 2 ^ 53 := by linarith [x.mantissa_le]
  have hgap : x.gap ≤ 2 ^ (971 : ℤ) := zpow_le_zpow_right₀ (by norm_num) x.exponent_le
  calc x.toRat + x.gap = (x.mantissa + 1) * x.gap := by rw [toRat_eq_mul_gap]; ring
    _ ≤ 2 ^ 53 * 2 ^ (971 : ℤ) := mul_le_mul hmantissa hgap x.gap_pos.le (by norm_num)
    _ = limit := limit_eq.symm

/-- The next larger magnitude, or the power of two behind the largest. -/
theorem exists_succ (x : Magnitude) :
    (∃ y : Magnitude, y.toRat = x.toRat + x.gap) ∨
      (x.toRat + x.gap = limit ∧ ¬ Even x.mantissa) := by
  rcases Nat.lt_or_ge (x.mantissa + 1) (2 ^ 53) with hlt | hge
  · refine .inl ⟨⟨x.mantissa + 1, x.exponent, hlt, x.exponent_ge, x.exponent_le,
      x.normal.imp_right (by omega)⟩, ?_⟩
    rw [toRat, toRat, gap]
    push_cast
    ring
  have hmantissa : x.mantissa = 2 ^ 53 - 1 := by
    have hupper : x.mantissa < 2 ^ 53 := x.mantissa_lt
    omega
  have hsum : x.toRat + x.gap = 2 ^ 53 * x.gap := by
    rw [toRat_eq_mul_gap, hmantissa]
    push_cast
    ring
  rcases lt_or_eq_of_le x.exponent_le with hexponent | hexponent
  · refine .inl ⟨⟨2 ^ 52, x.exponent + 1, by decide, by have := x.exponent_ge; omega, by omega,
      .inr le_rfl⟩, ?_⟩
    rw [hsum, toRat, gap, zpow_add_one₀ (by norm_num)]
    push_cast
    ring
  · refine .inr ⟨?_, ?_⟩
    · rw [hsum, gap, hexponent, limit_eq]
    · rw [hmantissa]
      decide

/-- The next smaller magnitude. -/
theorem exists_pred (hx : 0 < x.mantissa) : ∃ y : Magnitude, y.toRat = x.toRat - x.gapBelow := by
  by_cases hnarrow : x.narrowBelow = true
  · have hparts := narrowBelow_iff.mp hnarrow
    refine ⟨⟨2 ^ 53 - 1, x.exponent - 1, by decide, by omega, by have := x.exponent_le; omega,
      .inr (by decide)⟩, ?_⟩
    rw [gapBelow, if_pos hnarrow, toRat, toRat, gap, hparts.1, zpow_sub_one₀ (by norm_num)]
    push_cast
    ring
  · have hnormal : x.exponent = -1074 ∨ twoTo 52 ≤ x.mantissa - 1 := by
      rw [narrowBelow_iff, not_and_or] at hnarrow
      have hge := x.exponent_ge
      have hnormal := x.normal
      rw [twoTo_eq] at hnormal ⊢
      omega
    refine ⟨⟨x.mantissa - 1, x.exponent, lt_of_le_of_lt (Nat.sub_le _ _) x.mantissa_lt,
      x.exponent_ge, x.exponent_le, hnormal⟩, ?_⟩
    rw [gapBelow, if_neg hnarrow, toRat, toRat, gap]
    push_cast [Nat.cast_sub (show 1 ≤ x.mantissa from hx)]
    ring

/-- Rounding to nearest: no magnitude is nearer to `v`, if another is as near the mantissa is
even, and the power of two behind the largest magnitude is farther away. -/
structure IsRoundingOf (x : Magnitude) (v : ℚ) : Prop where
  nearest : ∀ y : Magnitude, |v - x.toRat| ≤ |v - y.toRat|
  even_of_tie : ∀ y : Magnitude, y ≠ x → |v - y.toRat| = |v - x.toRat| → Even x.mantissa
  bounded : |v - x.toRat| < |v - limit|

/-- The least number that may be rounded to `x`. -/
def low (x : Magnitude) : ℚ :=
  x.toRat - x.gapBelow / 2

/-- The greatest number that may be rounded to `x`. -/
def high (x : Magnitude) : ℚ :=
  x.toRat + x.gap / 2

/-- The numbers rounded to `x`. The ends belong to them when the mantissa is even. -/
def Covers (x : Magnitude) (v : ℚ) : Prop :=
  x.low ≤ v ∧ v ≤ x.high ∧ (v = x.low ∨ v = x.high → Even x.mantissa)

theorem low_lt_toRat (x : Magnitude) : x.low < x.toRat := by
  rw [low]
  linarith [x.gapBelow_pos]

theorem toRat_lt_high (x : Magnitude) : x.toRat < x.high := by
  rw [high]
  linarith [x.gap_pos]

theorem Covers.self (x : Magnitude) : x.Covers x.toRat :=
  ⟨x.low_lt_toRat.le, x.toRat_lt_high.le, fun h =>
    h.elim (fun h => absurd h x.low_lt_toRat.ne') fun h => absurd h x.toRat_lt_high.ne⟩

theorem covers_of_lt (hlow : x.low < v) (hhigh : v < x.high) : x.Covers v :=
  ⟨hlow.le, hhigh.le, fun h => h.elim (fun h => absurd h hlow.ne') fun h => absurd h hhigh.ne⟩

theorem Covers.convex {u : ℚ} (hu : x.Covers u) (hw : x.Covers w) (huv : u ≤ v) (hvw : v ≤ w) :
    x.Covers v := by
  refine ⟨hu.1.trans huv, hvw.trans hw.2.1, ?_⟩
  rintro (h | h)
  · exact hu.2.2 (.inl (le_antisymm (huv.trans h.le) hu.1))
  · exact hw.2.2 (.inr (le_antisymm hw.2.1 (h.ge.trans hvw)))

theorem Covers.of_le_of_le_toRat (h : x.Covers v) (hvw : v ≤ w) (hw : w ≤ x.toRat) : x.Covers w :=
  h.convex (.self x) hvw hw

theorem Covers.of_toRat_le_of_le (h : x.Covers v) (hw : x.toRat ≤ w) (hwv : w ≤ v) : x.Covers w :=
  Covers.convex (.self x) h hw hwv

/-- On the grid of its own gap a magnitude covers itself alone. -/
theorem Covers.eq_mantissa {n : ℕ} (h : x.Covers (n * x.gap)) : n = x.mantissa := by
  have hgap := x.gap_pos
  have hbelow := x.gapBelow_le_gap
  obtain ⟨hlow, hhigh, -⟩ := h
  rw [low, toRat_eq_mul_gap] at hlow
  rw [high, toRat_eq_mul_gap] at hhigh
  have hleast : (x.mantissa : ℚ) ≤ n + 1 / 2 :=
    le_of_mul_le_mul_right (by linarith) hgap
  have hgreatest : (n : ℚ) ≤ x.mantissa + 1 / 2 :=
    le_of_mul_le_mul_right (by linarith) hgap
  have hleast' : ((2 * x.mantissa : ℕ) : ℚ) ≤ (2 * n + 1 : ℕ) := by
    push_cast
    linarith
  have hgreatest' : ((2 * n : ℕ) : ℚ) ≤ (2 * x.mantissa + 1 : ℕ) := by
    push_cast
    linarith
  rw [Nat.cast_le] at hleast' hgreatest'
  omega

/-- What is rounded to the largest magnitude is nearer to it than to the next power of two. -/
theorem Covers.bounded (h : x.Covers v) : |v - x.toRat| < |v - limit| := by
  have hgap := x.gap_pos
  have hbelow := x.gapBelow_le_gap
  have hlimit := x.add_gap_le_limit
  obtain ⟨hlow, hhigh, hends⟩ := h
  rw [low] at hlow
  rw [high] at hhigh hends
  have habs : |v - limit| = limit - v := by
    rw [abs_sub_comm]
    exact abs_of_nonneg (by linarith)
  rw [habs, abs_lt]
  constructor
  · linarith
  by_contra hcontra
  -- only the upper end could be as near, which belongs to even mantissas
  have hend : v = x.toRat + x.gap / 2 := by linarith
  rcases exists_succ x with ⟨y, hy⟩ | ⟨-, hodd⟩
  · linarith [y.gap_pos, y.add_gap_le_limit]
  · exact hodd (hends (.inr hend))

theorem Covers.isRoundingOf (h : x.Covers v) : x.IsRoundingOf v := by
  have hgap := x.gap_pos
  have hbelow := x.gapBelow_pos
  have hsum : ∀ y : Magnitude, y ≠ x →
      y.toRat ≤ x.toRat - x.gapBelow ∨ x.toRat + x.gap ≤ y.toRat := by
    intro y hy
    rcases lt_or_gt_of_ne fun heq => hy (toRat_injective heq) with hlt | hgt
    · exact .inl (toRat_le_sub_gapBelow hlt)
    · exact .inr (add_gap_le_of_lt hgt)
  have hbounded := h.bounded
  obtain ⟨hlow, hhigh, hends⟩ := h
  rw [low] at hlow hends
  rw [high] at hhigh hends
  refine ⟨fun y => ?_, fun y hy htie => ?_, hbounded⟩
  · by_cases hy : y = x
    · rw [hy]
    · rcases hsum y hy with hside | hside <;> grind
  · apply hends
    rcases hsum y hy with hside | hside <;> grind

theorem IsRoundingOf.covers (hx : 0 < x.mantissa) (h : x.IsRoundingOf v) : x.Covers v := by
  have hgap := x.gap_pos
  have hbelow := x.gapBelow_pos
  obtain ⟨z, hz⟩ := exists_pred hx
  have hznear := h.nearest z
  have hztie := h.even_of_tie z (by rintro rfl; linarith)
  rw [hz] at hznear hztie
  have hupper : v ≤ x.high ∧ (v = x.high → Even x.mantissa) := by
    rw [high]
    rcases exists_succ x with ⟨y, hy⟩ | ⟨hy, -⟩
    · have hnear := h.nearest y
      have htie := h.even_of_tie y (by rintro rfl; linarith)
      rw [hy] at hnear htie
      grind
    · have hbounded := h.bounded
      rw [← hy] at hbounded
      grind
  rw [Covers, low]
  grind

theorem isRoundingOf_iff (hx : 0 < x.mantissa) : x.IsRoundingOf v ↔ x.Covers v :=
  ⟨IsRoundingOf.covers hx, Covers.isRoundingOf⟩

/-- A number just below a magnitude is not rounded to a smaller one. -/
theorem not_isRoundingOf_of_lt {p : Magnitude} (hv : v ≤ p.toRat)
    (hnear : 2 * (p.toRat - v) < p.gapBelow) (hx : x.toRat < v) : ¬ x.IsRoundingOf v := by
  intro h
  have hclose := h.nearest p
  have hbelow := toRat_le_sub_gapBelow (hx.trans_le hv)
  rw [abs_of_pos (by linarith), abs_sub_comm, abs_of_nonneg (by linarith)] at hclose
  linarith

theorem compareQuarters_eq (d : Decimal) (quarters : ℕ) (exponent : ℤ) :
    compareQuarters d quarters exponent = compare d.toRat (quarters * 2 ^ (exponent - 2)) := by
  have htwo := zpow_eq_div 2 (exponent - 2)
  have hneg : -(exponent - 2) = 2 - exponent := by ring
  rw [hneg] at htwo
  have hquarters : (quarters : ℚ) * 2 ^ (exponent - 2) =
      (quarters * twoTo (exponent - 2).toNat : ℕ) / (twoTo (2 - exponent).toNat : ℕ) := by
    push_cast at htwo
    rw [htwo, twoTo_eq, twoTo_eq]
    push_cast
    ring
  rw [hquarters, Decimal.toRat_eq_div, ← compare_mul_eq_compare_div]
  · rfl
  · exact Nat.pow_pos (by decide)
  · exact Nat.two_pow_pos _

theorem quarter_gap (x : Magnitude) : (2 : ℚ) ^ (x.exponent - 2) = x.gap / 4 := by
  rw [gap, zpow_sub₀ (by norm_num)]
  norm_num

theorem high_eq_quarters (x : Magnitude) :
    ((4 * x.mantissa + 2 : ℕ) : ℚ) * 2 ^ (x.exponent - 2) = x.high := by
  rw [quarter_gap, high, toRat_eq_mul_gap]
  push_cast
  ring

theorem low_eq_quarters (hx : 0 < x.mantissa) :
    ((4 * x.mantissa - if x.narrowBelow then 1 else 2 : ℕ) : ℚ) * 2 ^ (x.exponent - 2) =
      x.low := by
  rw [quarter_gap, low, gapBelow, toRat_eq_mul_gap]
  split
  · rw [Nat.cast_sub (by omega)]
    push_cast
    ring
  · rw [Nat.cast_sub (by omega)]
    push_cast
    ring

/-- The test by cross-multiplication decides rounding to nearest. -/
theorem readsBack_iff (hx : 0 < x.mantissa) (d : Decimal) :
    x.readsBack d = true ↔ x.Covers d.toRat := by
  have heven : (x.mantissa % 2 == 0) = true ↔ Even x.mantissa := by
    rw [beq_iff_eq, Nat.even_iff]
  have hinterval : x.low < x.high := x.low_lt_toRat.trans x.toRat_lt_high
  simp only [readsBack, compareQuarters_eq, low_eq_quarters hx, high_eq_quarters,
    Bool.and_eq_true, Covers]
  rcases lt_trichotomy d.toRat x.low with hlow | hlow | hlow
  · simp [compare_lt_iff_lt.mpr hlow, hlow.not_ge]
  · have hhigh : d.toRat < x.high := hlow ▸ hinterval
    rw [compare_eq_iff_eq.mpr hlow, compare_lt_iff_lt.mpr hhigh]
    simp [heven, hlow, hinterval.le]
  rw [compare_gt_iff_gt.mpr hlow]
  rcases lt_trichotomy d.toRat x.high with hhigh | hhigh | hhigh
  · rw [compare_lt_iff_lt.mpr hhigh]
    simp [hlow.le, hlow.ne', hhigh.le, hhigh.ne]
  · rw [compare_eq_iff_eq.mpr hhigh]
    simp [heven, hhigh, hinterval.le]
  · rw [compare_gt_iff_gt.mpr hhigh]
    simp [hhigh.not_ge]

/-! Whole numbers among the magnitudes. -/

theorem toNat?_eq_some_iff {n : ℕ} : x.toNat? = some n ↔ x.toRat = n := by
  have hden : (x.denominator : ℚ) ≠ 0 := by exact_mod_cast x.denominator_pos.ne'
  have hvalue : x.toRat = n ↔ x.numerator = n * x.denominator := by
    rw [toRat_eq_div, div_eq_iff hden]
    exact_mod_cast Iff.rfl
  rw [hvalue, toNat?]
  constructor
  · intro h
    split at h
    · rename_i hmod
      cases h
      exact (Nat.div_mul_cancel (Nat.dvd_of_mod_eq_zero hmod)).symm
    · cases h
  · intro h
    rw [h, if_pos (Nat.mul_mod_left _ _), Nat.mul_div_cancel _ x.denominator_pos]

theorem toNat?_eq_none_iff : x.toNat? = none ↔ ∀ n : ℕ, x.toRat ≠ n := by
  rw [Option.eq_none_iff_forall_ne_some]
  exact forall_congr' fun n => not_congr toNat?_eq_some_iff

theorem exponent_neg_of_fraction (hfraction : ∀ n : ℕ, x.toRat ≠ n) : x.exponent < 0 := by
  by_contra hwhole
  obtain ⟨k, hk⟩ := Int.eq_ofNat_of_zero_le (not_lt.mp hwhole)
  apply hfraction (x.mantissa * 2 ^ k)
  rw [toRat, hk]
  push_cast
  rfl

theorem exists_natCast_eq_mul_gap (hexponent : x.exponent ≤ 0) (n : ℕ) :
    ∃ k : ℕ, (n : ℚ) = k * x.gap := by
  obtain ⟨k, hk⟩ := Int.eq_ofNat_of_zero_le (neg_nonneg.mpr hexponent)
  refine ⟨n * 2 ^ k, ?_⟩
  have hexponent : x.exponent = -(k : ℤ) := by omega
  have htwo : (2 : ℚ) ^ k ≠ 0 := by positivity
  rw [gap, hexponent, zpow_neg, zpow_natCast]
  push_cast
  field_simp

end Magnitude

end Formwright
