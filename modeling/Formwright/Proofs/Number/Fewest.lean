import Formwright.Proofs.Number.Grid

/-!
The decimal with the fewest digits. Among the decimals that are rounded to a
magnitude it has the fewest digits, of those it is the nearest, and of two that are
as near it is the one whose digits are even. There is exactly one such decimal, and
the search from the coarsest grid on finds it.
-/

namespace Formwright

namespace Decimal

/-- A decimal that is rounded to `x`. -/
def Spells (d : Decimal) (x : Magnitude) : Prop :=
  0 < d.digits ∧ x.IsRoundingOf d.toRat

/-- The decimal to print for `x`: no other that spells it has fewer digits, of those with as many
digits none is nearer, and if another is as near the digits are even and the other's are not. -/
structure IsShortest (d : Decimal) (x : Magnitude) : Prop where
  spells : d.Spells x
  fewest : ∀ e : Decimal, e.Spells x → d.count ≤ e.count
  nearest : ∀ e : Decimal, e.Spells x → e.count = d.count →
    |d.toRat - x.toRat| ≤ |e.toRat - x.toRat|
  even_of_tie : ∀ e : Decimal, e.Spells x → e.count = d.count → e ≠ d →
    |d.toRat - x.toRat| = |e.toRat - x.toRat| → Even d.digits ∧ ¬ Even e.digits

theorem IsShortest.unique {x : Magnitude} {d e : Decimal} (hd : d.IsShortest x)
    (he : e.IsShortest x) : d = e := by
  by_contra hne
  have hcount : d.count = e.count :=
    le_antisymm (hd.fewest e he.spells) (he.fewest d hd.spells)
  have hdistance : |d.toRat - x.toRat| = |e.toRat - x.toRat| :=
    le_antisymm (hd.nearest e he.spells hcount.symm) (he.nearest d hd.spells hcount)
  have hodd := (hd.even_of_tie e he.spells hcount.symm (Ne.symm hne) hdistance).2
  have heven := (he.even_of_tie d hd.spells hcount hne hdistance.symm).1
  exact hodd heven

end Decimal

namespace Magnitude

variable {x : Magnitude} {d e : Decimal}

theorem spells_iff (hx : 0 < x.mantissa) : d.Spells x ↔ 0 < d.digits ∧ x.Covers d.toRat := by
  rw [Decimal.Spells, isRoundingOf_iff hx]

theorem toRat_stripZeros (fuel : ℕ) (d : Decimal) : (stripZeros fuel d).toRat = d.toRat := by
  induction fuel generalizing d with
  | zero => rfl
  | succ fuel ih =>
    rw [stripZeros]
    split
    · rename_i hzero
      have hdigits : d.digits = 10 * (d.digits / 10) := by omega
      rw [ih, Decimal.toRat, Decimal.toRat, zpow_add_one₀ (by norm_num)]
      conv_rhs => rw [hdigits]
      push_cast
      ring
    · rfl

theorem stripZeros_bounds (fuel : ℕ) (hd : 0 < d.digits) :
    0 < (stripZeros fuel d).digits ∧ (stripZeros fuel d).digits ≤ d.digits := by
  induction fuel generalizing d with
  | zero => exact ⟨hd, le_rfl⟩
  | succ fuel ih =>
    rw [stripZeros]
    split
    · have hrest := ih (d := ⟨d.digits / 10, d.exponent + 1⟩) (by dsimp only; omega)
      dsimp only at hrest
      omega
    · exact ⟨hd, le_rfl⟩

theorem stripZeros_mod_ne_zero (fuel : ℕ) (hd : 0 < d.digits) (hfuel : d.digits < 10 ^ fuel) :
    (stripZeros fuel d).digits % 10 ≠ 0 := by
  induction fuel generalizing d with
  | zero => omega
  | succ fuel ih =>
    rw [stripZeros]
    split
    · apply ih
      · dsimp only
        omega
      · dsimp only
        rw [Nat.pow_succ] at hfuel
        omega
    · omega

theorem exists_of_findSome?_range {α : Type} {f : ℕ → Option α} {n : ℕ} {a : α}
    (h : (List.range n).findSome? f = some a) :
    ∃ i < n, f i = some a ∧ ∀ j < i, f j = none := by
  induction n with
  | zero => cases h
  | succ n ih =>
    rw [List.range_succ, List.findSome?_append] at h
    cases hrest : (List.range n).findSome? f with
    | some b =>
      rw [hrest] at h
      obtain ⟨i, hi, hfound⟩ := ih (hrest.trans h)
      exact ⟨i, by omega, hfound⟩
    | none =>
      rw [hrest] at h
      rw [List.findSome?_eq_none_iff] at hrest
      refine ⟨n, by omega, ?_, fun j hj => hrest j (List.mem_range.mpr hj)⟩
      simpa using h

/-- Seventeen digits are enough for every magnitude. -/
theorem step_lt_gapBelow (hx : 0 < x.mantissa) : 10 ^ (x.decimalScale - 17) < x.gapBelow := by
  have hgap := x.gap_pos
  have hlow := (decimalScale_bounds hx).1
  have hstep : (10 : ℚ) ^ (x.decimalScale - 17) ≤ x.toRat / 10 ^ 16 := by
    have hexponent : x.decimalScale - 17 = (x.decimalScale - 1) - (16 : ℕ) := by
      push_cast
      ring
    rw [hexponent, zpow_sub₀ (by norm_num), zpow_natCast]
    exact div_le_div_of_nonneg_right hlow (by norm_num)
  have hmantissa := x.mantissa_le
  rw [toRat_eq_mul_gap] at hstep
  unfold gapBelow
  split
  · rename_i hnarrow
    rw [(narrowBelow_iff.mp hnarrow).1] at hstep
    push_cast at hstep
    linarith
  · nlinarith

/-- Halfway from nine steps to ten there is no magnitude whose rounding interval reaches both: its
mantissa would be a multiple of nineteen and less than ten. -/
theorem not_midway_nine_ten (x : Magnitude) (hx : 0 < x.mantissa) {G : ℤ}
    (hcovers : x.Covers (gridPoint G 9)) :
    x.toRat - gridPoint G 9 ≠ gridPoint G (9 + 1) - x.toRat := by
  intro hmid
  have hnine : gridPoint G 9 = 9 * 10 ^ G := rfl
  have hstep := step_pos G
  rw [gridPoint_succ G 9, hnine] at hmid
  have hvalue : x.toRat = 19 / 2 * 10 ^ G := by linarith
  have hsmall : x.mantissa < 19 := by
    have hlow := hcovers.1
    have hgap := x.gapBelow_le_gap
    rw [low, hnine] at hlow
    have hle : (x.mantissa : ℚ) * x.gap ≤ 19 / 2 * x.gap := by
      rw [← toRat_eq_mul_gap]
      linarith
    have hmantissa : (x.mantissa : ℚ) ≤ 19 / 2 := le_of_mul_le_mul_right hle x.gap_pos
    have hcast : (x.mantissa : ℚ) < (19 : ℕ) := by
      push_cast
      linarith
    exact_mod_cast hcast
  have hdvd : 19 ∣ x.mantissa := by
    have hten := zpow_eq_div 10 G
    push_cast at hten
    have hden : (x.denominator : ℚ) ≠ 0 := by exact_mod_cast x.denominator_pos.ne'
    rw [toRat_eq_div, hten] at hvalue
    field_simp at hvalue
    have hcross : x.numerator * 2 * 10 ^ (-G).toNat = x.denominator * 19 * 10 ^ G.toNat := by
      exact_mod_cast hvalue
    rw [numerator, twoTo_eq] at hcross
    have hproduct : x.mantissa * (2 ^ x.exponent.toNat * 2 * 10 ^ (-G).toNat) =
        19 * (x.denominator * 10 ^ G.toNat) := by linarith
    have hcoprime : Nat.Coprime 19 (2 ^ x.exponent.toNat * 2 * 10 ^ (-G).toNat) :=
      ((Nat.Coprime.pow_right _ (by decide)).mul_right (by decide)).mul_right
        (Nat.Coprime.pow_right _ (by decide))
    exact hcoprime.dvd_of_dvd_mul_right ⟨_, hproduct⟩
  exact absurd (Nat.le_of_dvd hx hdvd) (by omega)

/-- The search for `x` ends with `found` on the grid where `x` has `c` digits. -/
structure EndsAt (x : Magnitude) (c : ℕ) (found : Decimal) : Prop where
  pos : 0 < c
  grid : x.nearestOnGrid (x.decimalScale - c) = some found
  coarser : ∀ k : ℕ, 0 < k → k < c → x.nearestOnGrid (x.decimalScale - k) = none

theorem exists_endsAt (hx : 0 < x.mantissa) :
    ∃ (c : ℕ) (found : Decimal), x.EndsAt c found ∧
      x.shortest = stripZeros (Nat.toDigits 10 found.digits).length found := by
  have hsearch : ((List.range 17).map fun n => x.decimalScale - (n + 1 : ℕ)).findSome?
      x.nearestOnGrid =
        (List.range 17).findSome? fun n => x.nearestOnGrid (x.decimalScale - (n + 1 : ℕ)) :=
    List.findSome?_map
  cases hfound : (List.range 17).findSome?
      fun n => x.nearestOnGrid (x.decimalScale - (n + 1 : ℕ)) with
  | none =>
    rw [List.findSome?_eq_none_iff] at hfound
    have hlast := hfound 16 (by decide)
    obtain ⟨d, hd⟩ := exists_nearestOnGrid_of_lt hx (step_lt_gapBelow hx)
    rw [show ((16 + 1 : ℕ) : ℤ) = 17 from rfl, hd] at hlast
    cases hlast
  | some found =>
    obtain ⟨i, -, hgrid, hcoarser⟩ := exists_of_findSome?_range hfound
    refine ⟨i + 1, found, ⟨by omega, hgrid, fun k hpos hk => ?_⟩, ?_⟩
    · have hnone := hcoarser (k - 1) (by omega)
      rwa [Nat.sub_add_cancel hpos] at hnone
    · rw [shortest, hsearch, hfound, Option.getD_some]

/-- The least number with the scale of `x` lies on each of the grids that are searched. -/
theorem gridPoint_scale (x : Magnitude) {c : ℕ} (hc : 0 < c) :
    gridPoint (x.decimalScale - c) (10 ^ (c - 1)) = 10 ^ (x.decimalScale - 1) := by
  rw [gridPoint_pow]
  congr 1
  omega

theorem steps_bounds (hx : 0 < x.mantissa) {c : ℕ} (hc : 0 < c) :
    10 ^ (c - 1) ≤ x.steps (x.decimalScale - c) ∧ x.steps (x.decimalScale - c) < 10 ^ c := by
  have hscale := decimalScale_bounds hx
  have hlow := gridPoint_steps_le x (x.decimalScale - c)
  have hhigh := toRat_lt_gridPoint_succ x (x.decimalScale - c)
  have hfirst := x.gridPoint_scale hc
  have hlast : gridPoint (x.decimalScale - c) (10 ^ c) = 10 ^ x.decimalScale := by
    rw [gridPoint_pow, sub_add_cancel]
  have hmore : 10 ^ (c - 1) < x.steps (x.decimalScale - c) + 1 :=
    gridPoint_lt_gridPoint_iff.mp ((hfirst.trans_le hscale.1).trans_lt hhigh)
  have hless : x.steps (x.decimalScale - c) < 10 ^ c :=
    gridPoint_lt_gridPoint_iff.mp (hlow.trans_lt (hscale.2.trans_eq hlast.symm))
  omega

/-- A decimal that reaches the scale of `x` lies on the grid with as many digits. -/
theorem exists_gridPoint_of_le (he : 0 < e.digits) (h : 10 ^ (x.decimalScale - 1) ≤ e.toRat) :
    ∃ n, e.toRat = gridPoint (x.decimalScale - e.count) n := by
  rw [Decimal.ten_zpow_le_toRat_iff he] at h
  exact Decimal.exists_toRat_eq (by omega)

/-- A decimal that spells a magnitude answers for a point of the grid with as many digits, one that
is no farther away. -/
theorem exists_gridPoint_of_spells (hx : 0 < x.mantissa) (he : e.Spells x) :
    ∃ n, x.Covers (gridPoint (x.decimalScale - e.count) n) ∧
      |gridPoint (x.decimalScale - e.count) n - x.toRat| ≤ |e.toRat - x.toRat| := by
  obtain ⟨hpos, hcovers⟩ := (spells_iff hx).mp he
  rcases le_or_gt (10 ^ (x.decimalScale - 1)) e.toRat with hscale | hbelow
  · obtain ⟨n, hn⟩ := exists_gridPoint_of_le hpos hscale
    rw [hn] at hcovers
    exact ⟨n, hcovers, (congrArg (|· - x.toRat|) hn).ge⟩
  · have hleast := (decimalScale_bounds hx).1
    refine ⟨10 ^ (e.count - 1), ?_, ?_⟩
    · rw [x.gridPoint_scale e.count_pos]
      exact hcovers.of_le_of_le_toRat hbelow.le hleast
    · rw [x.gridPoint_scale e.count_pos, abs_sub_comm, abs_of_nonneg (by linarith), abs_sub_comm,
        abs_of_nonneg (by linarith)]
      linarith

namespace EndsAt

variable {c : ℕ} {found : Decimal}

theorem le_count (h : x.EndsAt c found) (hx : 0 < x.mantissa) (he : e.Spells x) :
    c ≤ e.count := by
  by_contra hlt
  obtain ⟨n, hcovers, -⟩ := exists_gridPoint_of_spells hx he
  obtain ⟨d, hd⟩ := exists_nearestOnGrid hx hcovers
  rw [h.coarser e.count e.count_pos (by omega)] at hd
  cases hd

theorem digits_bounds (h : x.EndsAt c found) (hx : 0 < x.mantissa) :
    0 < found.digits ∧ found.digits ≤ 10 ^ c := by
  have hsteps := steps_bounds hx h.pos
  have hpow : 0 < 10 ^ (c - 1) := Nat.pow_pos (by decide)
  rcases nearestOnGrid_eq_some hx h.grid with ⟨rfl, -⟩ | ⟨rfl, -⟩
  · dsimp only
    omega
  · dsimp only
    omega

theorem nearest (h : x.EndsAt c found) (hx : 0 < x.mantissa) (he : e.Spells x)
    (hcount : e.count = c) : |found.toRat - x.toRat| ≤ |e.toRat - x.toRat| := by
  obtain ⟨n, hcovers, hdistance⟩ := exists_gridPoint_of_spells hx he
  rw [hcount] at hcovers hdistance
  exact (nearestOnGrid_le hx h.grid hcovers).trans hdistance

/-- Without its trailing zeros the decimal found has one digit for each step of the search. -/
theorem spells_stripZeros (h : x.EndsAt c found) (hx : 0 < x.mantissa) (fuel : ℕ)
    (hfuel : found.digits < 10 ^ fuel) :
    (stripZeros fuel found).Spells x ∧ (stripZeros fuel found).count = c := by
  obtain ⟨hpos, hle⟩ := h.digits_bounds hx
  have hstrip := stripZeros_bounds fuel hpos
  have hspells : (stripZeros fuel found).Spells x := by
    rw [spells_iff hx, toRat_stripZeros]
    exact ⟨hstrip.1, nearestOnGrid_covers hx h.grid⟩
  refine ⟨hspells, le_antisymm ?_ (h.le_count hx hspells)⟩
  rw [Decimal.count_le_iff h.pos]
  refine lt_of_le_of_ne (hstrip.2.trans hle) fun heq => ?_
  apply stripZeros_mod_ne_zero fuel hpos hfuel
  rw [heq]
  exact Nat.mod_eq_zero_of_dvd (dvd_pow_self 10 h.pos.ne')

/-- Two decimals with the fewest digits that are as near as can be, one below and one above, have
the values of the two neighbours on the grid. -/
theorem values_of_tie (h : x.EndsAt c found) (hx : 0 < x.mantissa) {lo hi : Decimal}
    (hlo : lo.Spells x) (hhi : hi.Spells x) (hlocount : lo.count = c) (hhicount : hi.count = c)
    (hltlo : lo.toRat < x.toRat) (hlthi : x.toRat < hi.toRat)
    (htie : x.toRat - lo.toRat = hi.toRat - x.toRat)
    (hleast : x.toRat - lo.toRat ≤ |found.toRat - x.toRat|) :
    lo.toRat = gridPoint (x.decimalScale - c) (x.steps (x.decimalScale - c)) ∧
      hi.toRat = gridPoint (x.decimalScale - c) (x.steps (x.decimalScale - c) + 1) := by
  have hlocovers := ((spells_iff hx).mp hlo).2
  have hhicovers := ((spells_iff hx).mp hhi).2
  have hscale := (decimalScale_bounds hx).1
  have hclosest {n : ℕ} (hn : x.Covers (gridPoint (x.decimalScale - c) n)) :
      x.toRat - lo.toRat ≤ |gridPoint (x.decimalScale - c) n - x.toRat| :=
    hleast.trans (nearestOnGrid_le hx h.grid hn)
  have hlogrid : 10 ^ (x.decimalScale - 1) ≤ lo.toRat := by
    -- otherwise the least number with the scale would be nearer
    by_contra hlt
    have hpoint := x.gridPoint_scale h.pos
    have hnear := hclosest (hpoint ▸ hlocovers.of_le_of_le_toRat (not_le.mp hlt).le hscale)
    rw [hpoint, abs_sub_comm, abs_of_nonneg (by linarith)] at hnear
    linarith
  obtain ⟨a, ha⟩ := exists_gridPoint_of_le hlo.1 hlogrid
  obtain ⟨b, hb⟩ := exists_gridPoint_of_le hhi.1 (hscale.trans hlthi.le)
  rw [hlocount] at ha
  rw [hhicount] at hb
  rw [ha] at hlocovers hltlo hclosest htie ⊢
  rw [hb] at hhicovers hlthi htie ⊢
  generalize x.decimalScale - c = G at *
  have hbelow := gridPoint_steps_le x G
  have habove := toRat_lt_gridPoint_succ x G
  have hale : a ≤ x.steps G :=
    Nat.lt_succ_iff.mp (gridPoint_lt_gridPoint_iff.mp (hltlo.trans habove))
  have hble : x.steps G + 1 ≤ b := gridPoint_lt_gridPoint_iff.mp (hbelow.trans_lt hlthi)
  have hlow := hclosest (hlocovers.steps hale)
  have hhigh := hclosest (hhicovers.steps_succ hble)
  rw [abs_sub_comm, abs_of_nonneg (by linarith)] at hlow
  rw [abs_of_nonneg (by linarith)] at hhigh
  have hlowpoint : gridPoint G a ≤ gridPoint G (x.steps G) := gridPoint_le_gridPoint hale
  have hhighpoint : gridPoint G (x.steps G + 1) ≤ gridPoint G b := gridPoint_le_gridPoint hble
  constructor <;> linarith

/-- Between two neighbours that are as near the upper one has no more digits than the lower: were
it a power of ten, one digit would do, and the two would be nine and ten steps. -/
theorem steps_succ_lt (h : x.EndsAt c found) (hx : 0 < x.mantissa)
    (hlow : x.Covers (gridPoint (x.decimalScale - c) (x.steps (x.decimalScale - c))))
    (hhigh : x.Covers (gridPoint (x.decimalScale - c) (x.steps (x.decimalScale - c) + 1)))
    (hmid : x.toRat - gridPoint (x.decimalScale - c) (x.steps (x.decimalScale - c)) =
      gridPoint (x.decimalScale - c) (x.steps (x.decimalScale - c) + 1) - x.toRat) :
    x.steps (x.decimalScale - c) + 1 < 10 ^ c := by
  by_contra hfull
  have hsteps := (steps_bounds hx h.pos).2
  have hpower : x.steps (x.decimalScale - c) + 1 = 10 ^ c := by omega
  have hone : (⟨1, x.decimalScale⟩ : Decimal).Spells x := by
    rw [hpower, gridPoint_pow, sub_add_cancel, ← Decimal.toRat_power] at hhigh
    exact (spells_iff hx).mpr ⟨Nat.one_pos, hhigh⟩
  have hc : c = 1 := by
    have hle := h.le_count hx hone
    have hpos := h.pos
    rw [Decimal.count_power] at hle
    omega
  rw [hc, pow_one] at hpower
  have hnine : x.steps (x.decimalScale - (1 : ℕ)) = 9 := by omega
  rw [hc, hnine] at hlow hmid
  exact x.not_midway_nine_ten hx hlow hmid

theorem neighbours_of_tie (h : x.EndsAt c found) (hx : 0 < x.mantissa) {lo hi : Decimal}
    (hlo : lo.Spells x) (hhi : hi.Spells x) (hlocount : lo.count = c) (hhicount : hi.count = c)
    (hltlo : lo.toRat < x.toRat) (hlthi : x.toRat < hi.toRat)
    (htie : x.toRat - lo.toRat = hi.toRat - x.toRat)
    (hleast : x.toRat - lo.toRat ≤ |found.toRat - x.toRat|) :
    lo = ⟨x.steps (x.decimalScale - c), x.decimalScale - c⟩ ∧
      hi = ⟨x.steps (x.decimalScale - c) + 1, x.decimalScale - c⟩ := by
  obtain ⟨hlovalue, hhivalue⟩ :=
    h.values_of_tie hx hlo hhi hlocount hhicount hltlo hlthi htie hleast
  have hlocovers := ((spells_iff hx).mp hlo).2
  have hhicovers := ((spells_iff hx).mp hhi).2
  rw [hlovalue] at hlocovers htie
  rw [hhivalue] at hhicovers htie
  have hlast := h.steps_succ_lt hx hlocovers hhicovers htie
  have hsteps := steps_bounds hx h.pos
  have hpow : 0 < 10 ^ (c - 1) := Nat.pow_pos (by decide)
  constructor
  · refine Decimal.eq_of_toRat_eq hlo.1 (by dsimp only; omega) ?_ hlovalue
    rw [hlocount, Decimal.count_eq h.pos hsteps.1 hsteps.2]
  · refine Decimal.eq_of_toRat_eq hhi.1 (by dsimp only; omega) ?_ hhivalue
    rw [hhicount, Decimal.count_eq h.pos (by dsimp only; omega) hlast]

theorem even_of_tie (h : x.EndsAt c found) (hx : 0 < x.mantissa) (hd : d.Spells x)
    (he : e.Spells x) (hdcount : d.count = c) (hecount : e.count = c)
    (hvalue : d.toRat = found.toRat) (hne : e.toRat ≠ d.toRat)
    (htie : |d.toRat - x.toRat| = |e.toRat - x.toRat|) : Even d.digits ∧ ¬ Even e.digits := by
  have hmirror : d.toRat - x.toRat = -(e.toRat - x.toRat) :=
    (abs_eq_abs.mp htie).resolve_left fun heq => hne (by linarith)
  have hdcovers := ((spells_iff hx).mp hd).2
  have hecovers := ((spells_iff hx).mp he).2
  have hchoice := nearestOnGrid_eq_some hx h.grid
  rcases lt_or_gt_of_ne fun heq : d.toRat = x.toRat => hne (by linarith) with hlt | hgt
  · have hleast : x.toRat - d.toRat ≤ |found.toRat - x.toRat| := by
      rw [← hvalue, abs_sub_comm]
      exact le_abs_self _
    obtain ⟨rfl, rfl⟩ := h.neighbours_of_tie hx hd he hdcount hecount hlt (by linarith)
      (by linarith) hleast
    rw [Decimal.toRat_mk, Decimal.toRat_mk] at hmirror
    rcases hchoice with ⟨-, -, hother⟩ | ⟨rfl, -⟩
    · have heven := (hother hecovers).2 (by linarith)
      exact ⟨heven, by simpa [Nat.even_add_one] using heven⟩
    · exact absurd (gridPoint_injective _ hvalue) (Nat.succ_ne_self _).symm
  · have hleast : x.toRat - e.toRat ≤ |found.toRat - x.toRat| := by
      rw [← hvalue]
      exact (by linarith : x.toRat - e.toRat ≤ d.toRat - x.toRat).trans (le_abs_self _)
    obtain ⟨rfl, rfl⟩ := h.neighbours_of_tie hx he hd hecount hdcount (by linarith) hgt
      (by linarith) hleast
    rw [Decimal.toRat_mk, Decimal.toRat_mk] at hmirror
    rcases hchoice with ⟨rfl, -⟩ | ⟨-, -, hother⟩
    · exact absurd (gridPoint_injective _ hvalue) (Nat.succ_ne_self _)
    · have hodd := (hother hecovers).2 (by linarith)
      exact ⟨by simpa [Nat.even_add_one] using hodd, hodd⟩

end EndsAt

/-- The search finds the decimal to print. -/
theorem isShortest_shortest (hx : 0 < x.mantissa) : x.shortest.IsShortest x := by
  obtain ⟨c, found, h, hshortest⟩ := exists_endsAt hx
  have hfuel : found.digits < 10 ^ (Nat.toDigits 10 found.digits).length := found.digits_lt
  obtain ⟨hspells, hcount⟩ := h.spells_stripZeros hx _ hfuel
  have hvalue : x.shortest.toRat = found.toRat := by rw [hshortest, toRat_stripZeros]
  rw [← hshortest] at hspells hcount
  refine ⟨hspells, fun e he => ?_, fun e he hecount => ?_, fun e he hecount hne htie => ?_⟩
  · rw [hcount]
    exact h.le_count hx he
  · rw [hvalue]
    exact h.nearest hx he (hecount.trans hcount)
  · rw [hcount] at hecount
    have hdifferent : e.toRat ≠ x.shortest.toRat := fun heq =>
      hne (Decimal.eq_of_toRat_eq he.1 hspells.1 (hecount.trans hcount.symm) heq)
    exact h.even_of_tie hx hspells he hcount hecount hvalue hdifferent htie

/-- There is exactly one decimal to print for a positive magnitude. -/
theorem isShortest_iff (hx : 0 < x.mantissa) : d.IsShortest x ↔ d = x.shortest := by
  constructor
  · intro h
    exact h.unique (isShortest_shortest hx)
  · rintro rfl
    exact isShortest_shortest hx

end Magnitude

end Formwright
