import Formwright.Proofs.Number.Nearest

/-!
Decimals by their counts of digits. The scale of a magnitude is the count of its
digits in front of the point; on the grid of a power of ten a magnitude lies from
one step up to below the next, and these two neighbours settle what the whole grid
has to offer.
-/

namespace Formwright

/-- The number `n` steps up on the grid of `10 ^ G`. -/
def gridPoint (G : ℤ) (n : ℕ) : ℚ :=
  n * 10 ^ G

theorem step_pos (G : ℤ) : (0 : ℚ) < 10 ^ G :=
  zpow_pos (by norm_num) G

theorem gridPoint_succ (G : ℤ) (n : ℕ) : gridPoint G (n + 1) = gridPoint G n + 10 ^ G := by
  rw [gridPoint, gridPoint]
  push_cast
  ring

theorem gridPoint_le_gridPoint {G : ℤ} {m n : ℕ} (h : m ≤ n) : gridPoint G m ≤ gridPoint G n :=
  mul_le_mul_of_nonneg_right (by exact_mod_cast h) (step_pos G).le

theorem gridPoint_lt_gridPoint_iff {G : ℤ} {m n : ℕ} : gridPoint G m < gridPoint G n ↔ m < n := by
  rw [gridPoint, gridPoint, mul_lt_mul_iff_left₀ (step_pos G), Nat.cast_lt]

theorem gridPoint_injective (G : ℤ) : Function.Injective (gridPoint G) := by
  intro m n h
  exact_mod_cast mul_right_cancel₀ (step_pos G).ne' h

theorem gridPoint_pow (G : ℤ) (k : ℕ) : gridPoint G (10 ^ k) = 10 ^ (G + k) := by
  rw [gridPoint, zpow_add₀ (by norm_num), zpow_natCast]
  push_cast
  ring

namespace Decimal

variable {d e : Decimal}

/-- How many digits a decimal is written with. -/
def count (d : Decimal) : ℕ :=
  (Nat.toDigits 10 d.digits).length

theorem count_pos (d : Decimal) : 0 < d.count :=
  Nat.length_toDigits_pos

theorem count_le_iff {k : ℕ} (hk : 0 < k) : d.count ≤ k ↔ d.digits < 10 ^ k :=
  Nat.length_toDigits_le_iff (by decide) hk

theorem digits_lt (d : Decimal) : d.digits < 10 ^ d.count :=
  (count_le_iff d.count_pos).mp le_rfl

theorem le_digits (hd : 0 < d.digits) : 10 ^ (d.count - 1) ≤ d.digits := by
  by_contra hlt
  have hpos := d.count_pos
  rcases Nat.eq_zero_or_pos (d.count - 1) with hzero | hmore
  · rw [hzero] at hlt
    omega
  · have hle : d.count ≤ d.count - 1 := (count_le_iff hmore).mpr (by omega)
    omega

theorem count_eq {k : ℕ} (hk : 0 < k) (hlow : 10 ^ (k - 1) ≤ d.digits)
    (hhigh : d.digits < 10 ^ k) : d.count = k := by
  have hle : d.count ≤ k := (count_le_iff hk).mpr hhigh
  by_contra hne
  have hlt := d.digits_lt
  have hpow : 10 ^ d.count ≤ 10 ^ (k - 1) := Nat.pow_le_pow_right (by decide) (by omega)
  omega

theorem count_power (k : ℤ) : (⟨1, k⟩ : Decimal).count = 1 :=
  count_eq (by decide) le_rfl (by norm_num)

theorem toRat_mk (n : ℕ) (G : ℤ) : (⟨n, G⟩ : Decimal).toRat = gridPoint G n :=
  rfl

theorem toRat_power (k : ℤ) : (⟨1, k⟩ : Decimal).toRat = 10 ^ k := by
  rw [toRat_mk, gridPoint, Nat.cast_one, one_mul]

theorem toRat_pos (hd : 0 < d.digits) : 0 < d.toRat :=
  mul_pos (by exact_mod_cast hd) (zpow_pos (by norm_num) _)

theorem toRat_lt (d : Decimal) : d.toRat < 10 ^ (d.exponent + d.count) := by
  have hlt : (d.digits : ℚ) < 10 ^ d.count := by exact_mod_cast d.digits_lt
  rw [toRat, zpow_add₀ (by norm_num), zpow_natCast, mul_comm]
  exact mul_lt_mul_of_pos_left hlt (zpow_pos (by norm_num) _)

theorem le_toRat (hd : 0 < d.digits) : 10 ^ (d.exponent + d.count - 1) ≤ d.toRat := by
  have hle : (10 : ℚ) ^ (d.count - 1) ≤ d.digits := by exact_mod_cast le_digits hd
  have hpos := d.count_pos
  have hexponent : d.exponent + d.count - 1 = d.exponent + (d.count - 1 : ℕ) := by omega
  rw [hexponent, toRat, zpow_add₀ (by norm_num), zpow_natCast, mul_comm]
  exact mul_le_mul_of_nonneg_right hle (zpow_pos (by norm_num) _).le

/-- Among the decimals with one count of digits no number has two. -/
theorem eq_of_toRat_eq (hd : 0 < d.digits) (he : 0 < e.digits) (hcount : d.count = e.count)
    (h : d.toRat = e.toRat) : d = e := by
  have hfirst := (le_toRat hd).trans_lt (h ▸ e.toRat_lt)
  have hsecond := (le_toRat he).trans_lt (h ▸ d.toRat_lt)
  rw [zpow_lt_zpow_iff_right₀ (by norm_num)] at hfirst hsecond
  have hexponent : d.exponent = e.exponent := by omega
  have hdigits : d.digits = e.digits := by
    rw [toRat, toRat, hexponent] at h
    exact_mod_cast mul_right_cancel₀ (zpow_pos (by norm_num) _).ne' h
  cases d
  cases e
  simp_all

/-- Ten to the `k` is reached exactly by the decimals whose point stands behind more than `k`
digits. -/
theorem ten_zpow_le_toRat_iff (hd : 0 < d.digits) (k : ℤ) :
    10 ^ k ≤ d.toRat ↔ k < d.exponent + d.count := by
  constructor
  · intro h
    exact (zpow_lt_zpow_iff_right₀ (by norm_num)).mp (h.trans_lt d.toRat_lt)
  · intro h
    exact (zpow_le_zpow_right₀ (by norm_num) (by omega)).trans (le_toRat hd)

/-- Equal numbers have as many digits in front of the point. -/
theorem scale_eq_of_toRat_eq (hd : 0 < d.digits) (he : 0 < e.digits) (h : d.toRat = e.toRat) :
    d.exponent + d.count = e.exponent + e.count := by
  have hscale (k : ℤ) : k < d.exponent + d.count ↔ k < e.exponent + e.count := by
    rw [← ten_zpow_le_toRat_iff hd, h, ten_zpow_le_toRat_iff he]
  have hforward := hscale (d.exponent + d.count - 1)
  have hbackward := hscale (e.exponent + e.count - 1)
  omega

theorem toRat_eq_natCast (hexponent : 0 ≤ d.exponent) :
    d.toRat = (d.digits * 10 ^ d.exponent.toNat : ℕ) := by
  obtain ⟨k, hk⟩ := Int.eq_ofNat_of_zero_le hexponent
  rw [toRat, hk]
  push_cast
  rfl

/-- A decimal lies on every grid that is at least as fine as its own. -/
theorem exists_toRat_eq {G : ℤ} (h : G ≤ d.exponent) : ∃ n : ℕ, d.toRat = gridPoint G n := by
  refine ⟨d.digits * 10 ^ (d.exponent - G).toNat, ?_⟩
  have hexponent : d.exponent = (d.exponent - G).toNat + G := by omega
  rw [toRat, gridPoint]
  conv_lhs => rw [hexponent, zpow_add₀ (by norm_num), zpow_natCast]
  push_cast
  ring

end Decimal

namespace Magnitude

variable {x : Magnitude} {G : ℤ}

theorem isBelowPower_iff (x : Magnitude) (k : ℤ) :
    x.isBelowPower k = true ↔ x.toRat < 10 ^ k := by
  have hten := zpow_eq_div 10 k
  push_cast at hten
  have hden : (0 : ℚ) < x.denominator := by exact_mod_cast x.denominator_pos
  rw [isBelowPower, decide_eq_true_eq, toRat_eq_div, hten,
    div_lt_div_iff₀ hden (by positivity), tenTo_eq, tenTo_eq]
  exact_mod_cast Iff.rfl

/-! The scale. Its estimate is the binary logarithm times a little more than the decimal logarithm
of two, which lies between three tenths and twenty-eight ninety-thirds. -/

theorem zpow_le_zpow_of_pow_le {a b : ℚ} (ha : 0 < a) (hb : 1 < b) {r s : ℕ} (hr : r ≠ 0)
    (hbase : a ^ r ≤ b ^ s) {m n : ℤ} (hm : 0 ≤ m) (hmn : s * m ≤ r * n) : a ^ m ≤ b ^ n := by
  have hpos : (0 : ℚ) < b := by linarith
  refine le_of_pow_le_pow_left₀ hr (zpow_pos hpos n).le ?_
  calc (a ^ m) ^ r = (a ^ r) ^ m := by
        rw [← zpow_natCast, ← zpow_mul, ← zpow_natCast, ← zpow_mul, mul_comm]
    _ ≤ (b ^ s) ^ m := zpow_le_zpow_left₀ hm (by positivity) hbase
    _ = b ^ (s * m) := by rw [← zpow_natCast, ← zpow_mul]
    _ ≤ b ^ (r * n) := zpow_le_zpow_right₀ hb.le hmn
    _ = (b ^ n) ^ r := by rw [← zpow_natCast, ← zpow_mul, mul_comm]

theorem zpow_le_zpow_of_neg {a b : ℚ} (ha : 0 < a) (hb : 0 < b) {m n : ℤ}
    (h : b ^ (-n) ≤ a ^ (-m)) : a ^ m ≤ b ^ n := by
  rw [zpow_neg, zpow_neg] at h
  exact (inv_le_inv₀ (zpow_pos hb n) (zpow_pos ha m)).mp h

theorem two_zpow_le_ten_zpow {l k : ℤ} (hpos : 28 * l ≤ 93 * k) (hneg : 3 * l ≤ 10 * k) :
    (2 : ℚ) ^ l ≤ 10 ^ k := by
  rcases le_total 0 l with hl | hl
  · exact zpow_le_zpow_of_pow_le (by norm_num) (by norm_num) (r := 93) (s := 28) (by decide)
      (by norm_num) hl hpos
  rcases le_total 0 k with hk | hk
  · exact (zpow_le_one_of_nonpos₀ (by norm_num) hl).trans (one_le_zpow₀ (by norm_num) hk)
  · refine zpow_le_zpow_of_neg (by norm_num) (by norm_num) ?_
    exact zpow_le_zpow_of_pow_le (by norm_num) (by norm_num) (r := 3) (s := 10) (by decide)
      (by norm_num) (by omega) (by omega)

theorem ten_zpow_le_two_zpow {l k : ℤ} (hpos : 10 * k ≤ 3 * l) (hneg : 93 * k ≤ 28 * l) :
    (10 : ℚ) ^ k ≤ 2 ^ l := by
  rcases le_total l 0 with hl | hl
  · refine zpow_le_zpow_of_neg (by norm_num) (by norm_num) ?_
    exact two_zpow_le_ten_zpow (by omega) (by omega)
  rcases le_total k 0 with hk | hk
  · exact (zpow_le_one_of_nonpos₀ (by norm_num) hk).trans (one_le_zpow₀ (by norm_num) hl)
  · exact zpow_le_zpow_of_pow_le (by norm_num) (by norm_num) (r := 3) (s := 10) (by decide)
      (by norm_num) hk hpos

/-- The binary logarithm of a positive magnitude, rounded down. -/
def binaryScale (x : Magnitude) : ℤ :=
  x.mantissa.log2 + x.exponent

theorem two_zpow_binaryScale_le (hx : 0 < x.mantissa) : 2 ^ x.binaryScale ≤ x.toRat := by
  have hlog : (2 : ℚ) ^ x.mantissa.log2 ≤ x.mantissa := by
    exact_mod_cast Nat.log2_self_le hx.ne'
  rw [binaryScale, zpow_add₀ (by norm_num), zpow_natCast]
  exact mul_le_mul_of_nonneg_right hlog x.gap_pos.le

theorem toRat_lt_two_zpow (x : Magnitude) : x.toRat < 2 ^ (x.binaryScale + 1) := by
  have hlog : (x.mantissa : ℚ) < 2 ^ (x.mantissa.log2 + 1) := by
    exact_mod_cast Nat.lt_log2_self
  rw [binaryScale, add_right_comm, zpow_add₀ (by norm_num)]
  exact mul_lt_mul_of_pos_right (by exact_mod_cast hlog) x.gap_pos

theorem binaryScale_bounds (hx : 0 < x.mantissa) :
    -1074 ≤ x.binaryScale ∧ x.binaryScale < 1024 := by
  have hlog : x.mantissa.log2 < 53 := (Nat.log2_lt hx.ne').mpr x.mantissa_lt
  have hlow := x.exponent_ge
  have hhigh := x.exponent_le
  rw [binaryScale]
  omega

/-- The scale is the count of digits in front of the point, counted on below the point when there
are none. -/
theorem decimalScale_bounds (hx : 0 < x.mantissa) :
    10 ^ (x.decimalScale - 1) ≤ x.toRat ∧ x.toRat < 10 ^ x.decimalScale := by
  have hrange := binaryScale_bounds hx
  set estimate := x.binaryScale * 30103 / 100000 - 1 with hestimate
  have hscale : x.decimalScale =
      ([estimate, estimate + 1, estimate + 2, estimate + 3].find? x.isBelowPower).getD
        (estimate + 4) := rfl
  have hlow : (10 : ℚ) ^ (estimate - 1) ≤ x.toRat :=
    (ten_zpow_le_two_zpow (by omega) (by omega)).trans (two_zpow_binaryScale_le hx)
  have hhigh : x.toRat < 10 ^ (estimate + 4) :=
    x.toRat_lt_two_zpow.trans_le (two_zpow_le_ten_zpow (by omega) (by omega))
  have hbelow {k : ℤ} (h : x.isBelowPower k = true) : x.toRat < 10 ^ k :=
    (isBelowPower_iff x k).mp h
  have habove {k l : ℤ} (h : ¬ x.isBelowPower k = true) (hl : l - 1 = k) :
      (10 : ℚ) ^ (l - 1) ≤ x.toRat := by
    rw [isBelowPower_iff, ← hl] at h
    exact not_lt.mp h
  rw [hscale]
  by_cases h0 : x.isBelowPower estimate = true
  · rw [List.find?_cons_of_pos h0]
    exact ⟨hlow, hbelow h0⟩
  rw [List.find?_cons_of_neg h0]
  by_cases h1 : x.isBelowPower (estimate + 1) = true
  · rw [List.find?_cons_of_pos h1]
    exact ⟨habove h0 (by rw [Option.getD_some]; omega), hbelow h1⟩
  rw [List.find?_cons_of_neg h1]
  by_cases h2 : x.isBelowPower (estimate + 2) = true
  · rw [List.find?_cons_of_pos h2]
    exact ⟨habove h1 (by rw [Option.getD_some]; omega), hbelow h2⟩
  rw [List.find?_cons_of_neg h2]
  by_cases h3 : x.isBelowPower (estimate + 3) = true
  · rw [List.find?_cons_of_pos h3]
    exact ⟨habove h2 (by rw [Option.getD_some]; omega), hbelow h3⟩
  · rw [List.find?_cons_of_neg h3]
    exact ⟨habove h3 (by rw [List.find?_nil, Option.getD_none]; omega), hhigh⟩

/-! Neighbours on the grid of `10 ^ G`. -/

/-- How many whole steps of the grid fit into a magnitude. -/
def steps (x : Magnitude) (G : ℤ) : ℕ :=
  x.numerator * tenTo (-G).toNat / (x.denominator * tenTo G.toNat)

/-- The steps and the part of a step that is left. -/
theorem toRat_eq_steps (x : Magnitude) (G : ℤ) :
    x.toRat = gridPoint G (x.steps G) +
      ((x.numerator * tenTo (-G).toNat % (x.denominator * tenTo G.toNat) : ℕ) : ℚ) /
        (x.denominator * tenTo G.toNat : ℕ) * 10 ^ G := by
  set num := x.numerator * tenTo (-G).toNat with hnum
  set den := x.denominator * tenTo G.toNat with hden
  have hpositive : 0 < den := Nat.mul_pos x.denominator_pos (Nat.pow_pos (by decide))
  have hpos : (0 : ℚ) < den := by exact_mod_cast hpositive
  have hdivide : (num : ℚ) = den * (num / den : ℕ) + (num % den : ℕ) := by
    exact_mod_cast (Nat.div_add_mod num den).symm
  have hten := zpow_eq_div 10 G
  push_cast at hten
  have hvalue : x.toRat = num / den * 10 ^ G := by
    have hden0 : (x.denominator : ℚ) ≠ 0 := by exact_mod_cast x.denominator_pos.ne'
    rw [toRat_eq_div, hten, hnum, hden, tenTo_eq, tenTo_eq]
    push_cast
    field_simp
  have hsteps : x.steps G = num / den := rfl
  rw [hvalue, hdivide, gridPoint, hsteps]
  field_simp

theorem gridPoint_steps_le (x : Magnitude) (G : ℤ) : gridPoint G (x.steps G) ≤ x.toRat := by
  have hstep := step_pos G
  rw [toRat_eq_steps x G]
  exact le_add_of_nonneg_right (by positivity)

theorem toRat_lt_gridPoint_succ (x : Magnitude) (G : ℤ) :
    x.toRat < gridPoint G (x.steps G + 1) := by
  have hpositive : 0 < x.denominator * tenTo G.toNat :=
    Nat.mul_pos x.denominator_pos (Nat.pow_pos (by decide))
  have hpos : (0 : ℚ) < (x.denominator * tenTo G.toNat : ℕ) := by exact_mod_cast hpositive
  have hpart : ((x.numerator * tenTo (-G).toNat % (x.denominator * tenTo G.toNat) : ℕ) : ℚ) /
      (x.denominator * tenTo G.toNat : ℕ) < 1 := by
    rw [div_lt_one hpos]
    exact_mod_cast Nat.mod_lt _ hpositive
  rw [gridPoint_succ]
  conv_lhs => rw [toRat_eq_steps x G]
  have := mul_lt_mul_of_pos_right hpart (step_pos G)
  linarith

/-- Rounding to a whole number of steps compares the distances to the two neighbours. -/
theorem roundHalfEven_eq_steps_iff (x : Magnitude) (G : ℤ) :
    roundHalfEven (x.numerator * tenTo (-G).toNat) (x.denominator * tenTo G.toNat) = x.steps G ↔
      x.toRat - gridPoint G (x.steps G) < gridPoint G (x.steps G + 1) - x.toRat ∨
        (x.toRat - gridPoint G (x.steps G) = gridPoint G (x.steps G + 1) - x.toRat ∧
          Even (x.steps G)) := by
  have hvalue := toRat_eq_steps x G
  have hsteps : x.numerator * tenTo (-G).toNat / (x.denominator * tenTo G.toNat) = x.steps G :=
    rfl
  have hpositive : 0 < x.denominator * tenTo G.toNat :=
    Nat.mul_pos x.denominator_pos (Nat.pow_pos (by decide))
  generalize x.numerator * tenTo (-G).toNat = num at hvalue hsteps ⊢
  generalize x.denominator * tenTo G.toNat = den at hvalue hsteps hpositive ⊢
  have hstep := step_pos G
  have hpos : (0 : ℚ) < den := by exact_mod_cast hpositive
  have hlt : x.toRat - gridPoint G (x.steps G) < gridPoint G (x.steps G + 1) - x.toRat ↔
      2 * (num % den) < den := by
    have hcast : 2 * (num % den) < den ↔ (2 : ℚ) * ((num % den : ℕ) / den) < 1 := by
      rw [mul_div, div_lt_one hpos]
      exact_mod_cast Iff.rfl
    rw [hcast, gridPoint_succ, hvalue]
    constructor <;> intro h <;> nlinarith
  have heq : x.toRat - gridPoint G (x.steps G) = gridPoint G (x.steps G + 1) - x.toRat ↔
      2 * (num % den) = den := by
    have hcast : 2 * (num % den) = den ↔ (2 : ℚ) * ((num % den : ℕ) / den) = 1 := by
      rw [mul_div, div_eq_one_iff_eq hpos.ne']
      exact_mod_cast Iff.rfl
    rw [hcast, gridPoint_succ, hvalue]
    constructor <;> intro h <;> nlinarith
  rw [hlt, heq, roundHalfEven, hsteps, Nat.even_iff]
  grind

theorem nearestOnGrid_eq (x : Magnitude) (G : ℤ) : x.nearestOnGrid G =
    match x.readsBack ⟨x.steps G, G⟩, x.readsBack ⟨x.steps G + 1, G⟩ with
    | true, true => some (if roundHalfEven (x.numerator * tenTo (-G).toNat)
        (x.denominator * tenTo G.toNat) = x.steps G then ⟨x.steps G, G⟩ else ⟨x.steps G + 1, G⟩)
    | true, false => some ⟨x.steps G, G⟩
    | false, true => some ⟨x.steps G + 1, G⟩
    | false, false => none :=
  rfl

/-- What the choice between the two neighbours on a grid comes to. -/
theorem nearestOnGrid_eq_some (hx : 0 < x.mantissa) {d : Decimal}
    (h : x.nearestOnGrid G = some d) :
    (d = ⟨x.steps G, G⟩ ∧ x.Covers (gridPoint G (x.steps G)) ∧
      (x.Covers (gridPoint G (x.steps G + 1)) →
        x.toRat - gridPoint G (x.steps G) ≤ gridPoint G (x.steps G + 1) - x.toRat ∧
        (x.toRat - gridPoint G (x.steps G) = gridPoint G (x.steps G + 1) - x.toRat →
          Even (x.steps G)))) ∨
    (d = ⟨x.steps G + 1, G⟩ ∧ x.Covers (gridPoint G (x.steps G + 1)) ∧
      (x.Covers (gridPoint G (x.steps G)) →
        gridPoint G (x.steps G + 1) - x.toRat ≤ x.toRat - gridPoint G (x.steps G) ∧
        (x.toRat - gridPoint G (x.steps G) = gridPoint G (x.steps G + 1) - x.toRat →
          ¬ Even (x.steps G)))) := by
  have hround := roundHalfEven_eq_steps_iff x G
  have hdown := readsBack_iff hx ⟨x.steps G, G⟩
  have hup := readsBack_iff hx ⟨x.steps G + 1, G⟩
  rw [Decimal.toRat_mk] at hdown hup
  rw [nearestOnGrid_eq] at h
  cases hd : x.readsBack ⟨x.steps G, G⟩ <;> cases hu : x.readsBack ⟨x.steps G + 1, G⟩ <;>
    simp only [hd, hu] at h hdown hup
  · cases h
  · cases h
    exact .inr ⟨rfl, hup.mp trivial, fun hcovers => absurd (hdown.mpr hcovers) (by decide)⟩
  · cases h
    exact .inl ⟨rfl, hdown.mp trivial, fun hcovers => absurd (hup.mpr hcovers) (by decide)⟩
  · split at h
    · cases h
      refine .inl ⟨rfl, hdown.mp trivial, fun _ => ?_⟩
      grind
    · cases h
      refine .inr ⟨rfl, hup.mp trivial, fun _ => ?_⟩
      grind

theorem nearestOnGrid_eq_none (hx : 0 < x.mantissa) (h : x.nearestOnGrid G = none) :
    ¬ x.Covers (gridPoint G (x.steps G)) ∧ ¬ x.Covers (gridPoint G (x.steps G + 1)) := by
  have hdown : x.Covers (gridPoint G (x.steps G)) ↔ x.readsBack ⟨x.steps G, G⟩ = true :=
    (readsBack_iff hx ⟨x.steps G, G⟩).symm
  have hup : x.Covers (gridPoint G (x.steps G + 1)) ↔ x.readsBack ⟨x.steps G + 1, G⟩ = true :=
    (readsBack_iff hx ⟨x.steps G + 1, G⟩).symm
  rw [nearestOnGrid_eq] at h
  rw [hdown, hup]
  cases hd : x.readsBack ⟨x.steps G, G⟩ <;> cases hu : x.readsBack ⟨x.steps G + 1, G⟩ <;>
    simp_all

theorem Covers.steps {n : ℕ} (h : x.Covers (gridPoint G n)) (hn : n ≤ x.steps G) :
    x.Covers (gridPoint G (x.steps G)) :=
  h.of_le_of_le_toRat (gridPoint_le_gridPoint hn) (gridPoint_steps_le x G)

theorem Covers.steps_succ {n : ℕ} (h : x.Covers (gridPoint G n)) (hn : x.steps G < n) :
    x.Covers (gridPoint G (x.steps G + 1)) :=
  h.of_toRat_le_of_le (toRat_lt_gridPoint_succ x G).le (gridPoint_le_gridPoint hn)

/-- The grid offers a decimal when any of its points is rounded to the magnitude. -/
theorem exists_nearestOnGrid (hx : 0 < x.mantissa) {n : ℕ} (h : x.Covers (gridPoint G n)) :
    ∃ d, x.nearestOnGrid G = some d := by
  cases hnone : x.nearestOnGrid G with
  | some d => exact ⟨d, rfl⟩
  | none =>
    obtain ⟨hdown, hup⟩ := nearestOnGrid_eq_none hx hnone
    rcases Nat.lt_or_ge (x.steps G) n with hn | hn
    · exact absurd (h.steps_succ hn) hup
    · exact absurd (h.steps hn) hdown

theorem nearestOnGrid_covers (hx : 0 < x.mantissa) {d : Decimal} (h : x.nearestOnGrid G = some d) :
    x.Covers d.toRat := by
  rcases nearestOnGrid_eq_some hx h with ⟨rfl, hcovers, -⟩ | ⟨rfl, hcovers, -⟩
  · exact hcovers
  · exact hcovers

/-- No point of the grid that is rounded to the magnitude is nearer. -/
theorem nearestOnGrid_le (hx : 0 < x.mantissa) {d : Decimal} (h : x.nearestOnGrid G = some d)
    {n : ℕ} (hn : x.Covers (gridPoint G n)) : |d.toRat - x.toRat| ≤ |gridPoint G n - x.toRat| := by
  have hlow := gridPoint_steps_le x G
  have hhigh := toRat_lt_gridPoint_succ x G
  have hdown : |gridPoint G (x.steps G) - x.toRat| = x.toRat - gridPoint G (x.steps G) := by
    rw [abs_sub_comm, abs_of_nonneg (by linarith)]
  have hup : |gridPoint G (x.steps G + 1) - x.toRat| = gridPoint G (x.steps G + 1) - x.toRat :=
    abs_of_nonneg (by linarith)
  have hside : (n ≤ x.steps G ∧ x.toRat - gridPoint G (x.steps G) ≤ |gridPoint G n - x.toRat|) ∨
      (x.steps G < n ∧ gridPoint G (x.steps G + 1) - x.toRat ≤ |gridPoint G n - x.toRat|) := by
    rcases Nat.lt_or_ge (x.steps G) n with hlt | hle
    · have hpoint : gridPoint G (x.steps G + 1) ≤ gridPoint G n := gridPoint_le_gridPoint hlt
      exact .inr ⟨hlt, (by linarith : _ ≤ gridPoint G n - x.toRat).trans (le_abs_self _)⟩
    · have hpoint : gridPoint G n ≤ gridPoint G (x.steps G) := gridPoint_le_gridPoint hle
      exact .inl ⟨hle, (by linarith : _ ≤ -(gridPoint G n - x.toRat)).trans (neg_le_abs _)⟩
  rcases nearestOnGrid_eq_some hx h with ⟨rfl, -, hother⟩ | ⟨rfl, -, hother⟩
  · rw [Decimal.toRat_mk, hdown]
    rcases hside with ⟨-, hdist⟩ | ⟨hlt, hdist⟩
    · exact hdist
    · exact (hother (hn.steps_succ hlt)).1.trans hdist
  · rw [Decimal.toRat_mk, hup]
    rcases hside with ⟨hle, hdist⟩ | ⟨-, hdist⟩
    · exact (hother (hn.steps hle)).1.trans hdist
    · exact hdist

/-- A grid finer than the gap below a magnitude always offers a decimal. -/
theorem exists_nearestOnGrid_of_lt (hx : 0 < x.mantissa) (h : 10 ^ G < x.gapBelow) :
    ∃ d, x.nearestOnGrid G = some d := by
  have hlow := gridPoint_steps_le x G
  have hhigh := toRat_lt_gridPoint_succ x G
  have hsucc := gridPoint_succ G (x.steps G)
  have hgap := x.gapBelow_le_gap
  have hstep := step_pos G
  rcases le_or_gt (x.toRat - gridPoint G (x.steps G)) (10 ^ G / 2) with hnear | hfar
  · have hcovers : x.Covers (gridPoint G (x.steps G)) :=
      covers_of_lt (by rw [low]; linarith) (by rw [high]; linarith)
    exact exists_nearestOnGrid hx hcovers
  · have hcovers : x.Covers (gridPoint G (x.steps G + 1)) :=
      covers_of_lt (by rw [low]; linarith) (by rw [high]; linarith)
    exact exists_nearestOnGrid hx hcovers

end Magnitude

end Formwright
