import Formwright.Proofs.Number.Fewest
import Formwright.Proofs.Number.Layouts

/-!
Numbers as a JavaScript template literal prints them, against numbers in markup.
The script's text is laid out from the decimal with the fewest digits, with an
exponent only from ten to the twenty-first on and below a millionth. Markup writes
an integral number in full and starts exponents at a ten-thousandth, so the two
agree on the numbers in between and part at the ends.
-/

namespace Formwright

namespace Magnitude

/-- The magnitude nearest to a ten-thousandth. -/
def tenThousandth : Magnitude :=
  ⟨7378697629483821, -66, by decide, by decide, by decide, by decide⟩

/-- The magnitude nearest to a thousand-millionth. -/
def thousandMillionth : Magnitude :=
  ⟨4835703278458517, -82, by decide, by decide, by decide, by decide⟩

end Magnitude

namespace Decimal

variable {x : Magnitude} {d : Decimal}

/-- The digits of a natural number are printed exactly when it is the shortest decimal itself and
has at most 21 digits. -/
theorem IsShortest.scriptText_eq_ofNat_iff (h : d.IsShortest x) (n : ℕ) :
    d.scriptText = Text.ofNat n ↔ d.toRat = n ∧ n < 10 ^ 21 := by
  have hd := h.spells.1
  constructor
  · intro htext
    obtain ⟨hexponent, hplain⟩ := plain_of_scriptText_eq_ofNat htext
    rw [scriptText_eq_ofNat hd hexponent hplain] at htext
    have hvalue : d.toRat = n := by
      rw [toRat_eq_natCast hexponent, Text.ofNat_injective htext]
    refine ⟨hvalue, ?_⟩
    have hlt : (n : ℚ) < 10 ^ (21 : ℤ) := by
      rw [← hvalue]
      exact d.toRat_lt.trans_le (zpow_le_zpow_right₀ (by norm_num) hplain)
    exact_mod_cast hlt
  · rintro ⟨hvalue, hlt⟩
    have hwhole : (⟨n, 0⟩ : Decimal).toRat = d.toRat := by
      rw [hvalue, toRat_mk, gridPoint, zpow_zero, mul_one]
    have hpos : 0 < n := by
      have hcast : (0 : ℚ) < n := hvalue ▸ toRat_pos hd
      exact_mod_cast hcast
    have hspells : (⟨n, 0⟩ : Decimal).Spells x := ⟨hpos, hwhole ▸ h.spells.2⟩
    have hfewest := h.fewest _ hspells
    have hscale := scale_eq_of_toRat_eq hd hpos hwhole.symm
    have hcount : (⟨n, 0⟩ : Decimal).count ≤ 21 := (count_le_iff (by decide)).mpr hlt
    dsimp only at hscale
    have hexponent : 0 ≤ d.exponent := by omega
    rw [scriptText_eq_ofNat hd hexponent (by omega)]
    rw [toRat_eq_natCast hexponent] at hvalue
    rw [Nat.cast_inj.mp hvalue]

/-- A power of ten that is rounded to `x` is the shortest decimal unless another of one digit is
nearer. -/
theorem IsShortest.le_of_spells_power (h : d.IsShortest x) {k : ℤ}
    (hk : (⟨1, k⟩ : Decimal).Spells x) : |d.toRat - x.toRat| ≤ |10 ^ k - x.toRat| := by
  have hcount := h.fewest _ hk
  rw [count_power] at hcount
  have hpos := d.count_pos
  have hnear := h.nearest _ hk (by rw [count_power]; omega)
  rwa [toRat_power] at hnear

/-- The shortest decimal reaches each power of ten that the magnitude reaches. -/
theorem IsShortest.ten_zpow_le (h : d.IsShortest x) (hx : 0 < x.mantissa) {k : ℤ}
    (hk : 10 ^ k ≤ x.toRat) : 10 ^ k ≤ d.toRat := by
  by_contra hlt
  have hcovers := ((Magnitude.spells_iff hx).mp h.spells).2
  have hpower : (⟨1, k⟩ : Decimal).Spells x := by
    rw [Magnitude.spells_iff hx, toRat_power]
    exact ⟨Nat.one_pos, hcovers.of_le_of_le_toRat (not_le.mp hlt).le hk⟩
  have hnear := h.le_of_spells_power hpower
  rw [abs_sub_comm, abs_of_nonneg (by linarith), abs_sub_comm, abs_of_nonneg (by linarith)] at hnear
  linarith

/-- It reaches no other when the magnitude nearest to the power of ten is no smaller. -/
theorem IsShortest.ten_zpow_le_iff (h : d.IsShortest x) (hx : 0 < x.mantissa) {k : ℤ}
    {p : Magnitude} (hp : 10 ^ k ≤ p.toRat) (hnear : 2 * (p.toRat - 10 ^ k) < p.gapBelow) :
    10 ^ k ≤ d.toRat ↔ 10 ^ k ≤ x.toRat := by
  refine ⟨fun hk => ?_, h.ten_zpow_le hx⟩
  by_contra hlt
  have hcovers := ((Magnitude.spells_iff hx).mp h.spells).2
  have hpower : x.Covers (10 ^ k) := hcovers.of_toRat_le_of_le (not_le.mp hlt).le hk
  exact Magnitude.not_isRoundingOf_of_lt hp hnear (not_le.mp hlt) hpower.isRoundingOf

/-- A decimal without a fraction spells no number of the finer magnitudes but its own. -/
theorem IsShortest.toRat_eq_of_whole (h : d.IsShortest x) (hx : 0 < x.mantissa)
    (hexponent : x.exponent ≤ 0) (hwhole : 0 ≤ d.exponent) : d.toRat = x.toRat := by
  have hcovers := ((Magnitude.spells_iff hx).mp h.spells).2
  obtain ⟨n, hn⟩ := Magnitude.exists_natCast_eq_mul_gap hexponent
    (d.digits * 10 ^ d.exponent.toNat)
  rw [toRat_eq_natCast hwhole, hn] at hcovers ⊢
  rw [hcovers.eq_mantissa, Magnitude.toRat_eq_mul_gap]

/-- The shortest decimal of a number with a fraction has one too. -/
theorem IsShortest.exponent_neg (h : d.IsShortest x) (hx : 0 < x.mantissa)
    (hfraction : ∀ n : ℕ, x.toRat ≠ n) : d.exponent < 0 := by
  by_contra hwhole
  have hexponent := Magnitude.exponent_neg_of_fraction hfraction
  have hvalue := h.toRat_eq_of_whole hx hexponent.le (not_lt.mp hwhole)
  rw [toRat_eq_natCast (not_lt.mp hwhole)] at hvalue
  exact hfraction _ hvalue.symm

/-- A number with a fraction has at most sixteen digits in front of the point. -/
theorem IsShortest.scale_le (h : d.IsShortest x) (hx : 0 < x.mantissa)
    (hfraction : ∀ n : ℕ, x.toRat ≠ n) : d.exponent + d.count ≤ 16 := by
  by_contra hlarge
  have hcovers := ((Magnitude.spells_iff hx).mp h.spells).2
  have hhigh := hcovers.2.1
  have hreached : (10 : ℚ) ^ 16 ≤ d.toRat :=
    (ten_zpow_le_toRat_iff h.spells.1 16).mpr (by omega)
  have hgap : x.gap ≤ 1 / 2 := by
    have hexponent := Magnitude.exponent_neg_of_fraction hfraction
    have hle : x.gap ≤ 2 ^ (-1 : ℤ) :=
      zpow_le_zpow_right₀ (by norm_num) (Int.le_sub_one_of_lt hexponent)
    exact hle.trans_eq (by norm_num)
  have hproduct : x.mantissa * x.gap ≤ (2 ^ 53 - 1) * (1 / 2) :=
    mul_le_mul x.mantissa_le hgap x.gap_pos.le (by norm_num)
  rw [Magnitude.high, Magnitude.toRat_eq_mul_gap] at hhigh
  linarith

theorem IsShortest.tenThousandth_le_iff (h : d.IsShortest x) (hx : 0 < x.mantissa) :
    10 ^ (-4 : ℤ) ≤ d.toRat ↔ 10 ^ (-4 : ℤ) ≤ x.toRat := by
  have hgap : Magnitude.tenThousandth.gapBelow = 2 ^ (-66 : ℤ) := rfl
  refine h.ten_zpow_le_iff hx (p := Magnitude.tenThousandth) ?_ ?_
  · norm_num [Magnitude.toRat, Magnitude.tenThousandth]
  · rw [hgap]
    norm_num [Magnitude.toRat, Magnitude.tenThousandth]

theorem IsShortest.thousandMillionth_le_iff (h : d.IsShortest x) (hx : 0 < x.mantissa) :
    10 ^ (-9 : ℤ) ≤ d.toRat ↔ 10 ^ (-9 : ℤ) ≤ x.toRat := by
  have hgap : Magnitude.thousandMillionth.gapBelow = 2 ^ (-82 : ℤ) := rfl
  refine h.ten_zpow_le_iff hx (p := Magnitude.thousandMillionth) ?_ ?_
  · norm_num [Magnitude.toRat, Magnitude.thousandMillionth]
  · rw [hgap]
    norm_num [Magnitude.toRat, Magnitude.thousandMillionth]

end Decimal

namespace Double

/-- A minus sign for what is negative. -/
def signText (negative : Bool) : Text :=
  if negative then lit "-" else []

/-- What a template literal of a script prints for a number. -/
def IsScriptText : Double → Text → Prop
  | nan, t => t = lit "NaN"
  | infinite negative, t => t = signText negative ++ lit "Infinity"
  | finite negative x, t =>
    if x.mantissa = 0 then t = lit "0"
    else ∃ d : Decimal, d.IsShortest x ∧ t = signText negative ++ d.scriptText

/-- The text by the search for the shortest decimal. -/
def scriptText : Double → Text
  | nan => lit "NaN"
  | infinite negative => signText negative ++ lit "Infinity"
  | finite negative x =>
    if x.mantissa = 0 then lit "0" else signText negative ++ x.shortest.scriptText

theorem isScriptText_iff {x : Double} {t : Text} : x.IsScriptText t ↔ t = x.scriptText := by
  cases x with
  | nan => rfl
  | infinite negative => rfl
  | finite negative x =>
    rw [IsScriptText, scriptText]
    split
    · rfl
    · rename_i hx
      simp only [Magnitude.isShortest_iff (Nat.pos_of_ne_zero hx), exists_eq_left]

/-- The numbers that markup writes as a script prints them: integral ones below ten to the
twenty-first whose shortest decimal is their very value, and those with a fraction except from
below a ten-thousandth down to a thousand-millionth. -/
def PrintsAlike : Double → Prop
  | nan | infinite _ => False
  | finite _ x =>
    (∃ n : ℕ, x.toRat = n ∧
      (n = 0 ∨ n < 10 ^ 21 ∧ ∃ d : Decimal, d.IsShortest x ∧ d.toRat = n)) ∨
    ((∀ n : ℕ, x.toRat ≠ n) ∧ (10 ^ (-4 : ℤ) ≤ x.toRat ∨ x.toRat < 10 ^ (-9 : ℤ)))

variable {negative : Bool} {x : Magnitude}

theorem inMarkup_of_natCast {n : ℕ} (hn : x.toRat = n) (hpos : 0 < n) :
    (finite negative x).inMarkup = signText negative ++ Text.ofNat n := by
  have hwhole := Magnitude.toNat?_eq_some_iff.mpr hn
  cases n with
  | zero => cases hpos
  | succ k =>
    cases negative <;> simp only [inMarkup, toInt?, hwhole] <;> rfl

theorem inMarkup_of_fraction (hx : 0 < x.mantissa) (h : ∀ n : ℕ, x.toRat ≠ n) :
    (finite negative x).inMarkup = signText negative ++ plainStyle.layout x.shortest := by
  have hnone := Magnitude.toNat?_eq_none_iff.mpr h
  simp only [inMarkup, toInt?, hnone, written, NumberStyle.render, if_neg hx.ne']
  rfl

theorem toRat_of_mantissa_eq_zero (hx : x.mantissa = 0) : x.toRat = (0 : ℕ) := by
  rw [Magnitude.toRat, hx, Nat.cast_zero, zero_mul]

theorem inMarkup_of_mantissa_eq_zero (hx : x.mantissa = 0) :
    (finite negative x).inMarkup = lit "0" := by
  have hwhole : x.toNat? = some 0 :=
    Magnitude.toNat?_eq_some_iff.mpr (toRat_of_mantissa_eq_zero hx)
  cases negative <;> simp only [inMarkup, toInt?, hwhole] <;> rfl

theorem printsAlike_of_natCast (hx : 0 < x.mantissa) {n : ℕ} (hn : x.toRat = n) :
    (finite negative x).PrintsAlike ↔ x.shortest.toRat = n ∧ n < 10 ^ 21 := by
  have hpos : n ≠ 0 := by
    rintro rfl
    exact absurd hn (by simpa using (Magnitude.toRat_pos hx).ne')
  simp only [PrintsAlike, Magnitude.isShortest_iff hx, exists_eq_left]
  constructor
  · rintro (⟨m, hm, rfl | ⟨hlt, hvalue⟩⟩ | ⟨hfraction, -⟩)
    · exact absurd (Nat.cast_injective (hn.symm.trans hm)) hpos
    · obtain rfl : n = m := Nat.cast_injective (hn.symm.trans hm)
      exact ⟨hvalue, hlt⟩
    · exact absurd hn (hfraction n)
  · rintro ⟨hvalue, hlt⟩
    exact .inl ⟨n, hn, .inr ⟨hlt, hvalue⟩⟩

theorem printsAlike_of_fraction (h : ∀ n : ℕ, x.toRat ≠ n) :
    (finite negative x).PrintsAlike ↔ 10 ^ (-4 : ℤ) ≤ x.toRat ∨ x.toRat < 10 ^ (-9 : ℤ) := by
  constructor
  · rintro (⟨n, hn, -⟩ | ⟨-, hrange⟩)
    · exact absurd hn (h n)
    · exact hrange
  · intro hrange
    exact .inr ⟨h, hrange⟩

theorem finite_inMarkup_eq_scriptText_iff (negative : Bool) (x : Magnitude) :
    (finite negative x).inMarkup = (finite negative x).scriptText ↔
      (finite negative x).PrintsAlike := by
  rcases Nat.eq_zero_or_pos x.mantissa with hzero | hx
  · rw [inMarkup_of_mantissa_eq_zero hzero, scriptText, if_pos hzero]
    exact iff_of_true rfl (.inl ⟨0, toRat_of_mantissa_eq_zero hzero, .inl rfl⟩)
  have hshortest := Magnitude.isShortest_shortest hx
  rw [scriptText, if_neg hx.ne']
  by_cases hwhole : ∃ n : ℕ, x.toRat = n
  · obtain ⟨n, hn⟩ := hwhole
    have hpos : 0 < n := by
      have hcast : (0 : ℚ) < n := hn ▸ Magnitude.toRat_pos hx
      exact_mod_cast hcast
    rw [inMarkup_of_natCast hn hpos, List.append_cancel_left_eq, eq_comm,
      hshortest.scriptText_eq_ofNat_iff, printsAlike_of_natCast hx hn]
  · have hfraction : ∀ n : ℕ, x.toRat ≠ n := not_exists.mp hwhole
    have hlarge := hshortest.tenThousandth_le_iff hx
    have hsmall := hshortest.thousandMillionth_le_iff hx
    rw [Decimal.ten_zpow_le_toRat_iff hshortest.spells.1] at hlarge hsmall
    have hsmall' : x.toRat < 10 ^ (-9 : ℤ) ↔ x.shortest.exponent + x.shortest.count ≤ -9 := by
      rw [← not_le, ← hsmall, not_lt]
    rw [inMarkup_of_fraction hx hfraction, List.append_cancel_left_eq,
      Decimal.plainStyle_layout_eq_scriptText_iff (hshortest.exponent_neg hx hfraction)
        (hshortest.scale_le hx hfraction), printsAlike_of_fraction hfraction, ← hlarge, hsmall']

theorem inMarkup_eq_scriptText_iff (x : Double) : x.inMarkup = x.scriptText ↔ x.PrintsAlike := by
  cases x with
  | nan => exact iff_of_false (by decide) id
  | infinite negative => exact iff_of_false (by cases negative <;> decide) id
  | finite negative x => exact finite_inMarkup_eq_scriptText_iff negative x

end Double

namespace Number

/-- Each number has one text that a script prints for it, and markup has that text exactly for the
numbers that print alike. -/
theorem real_inMarkup_isScriptText_iff (x : Double) :
    (∃! t, x.IsScriptText t) ∧
      ((∃ t, (real x).inMarkup = .ok t ∧ x.IsScriptText t) ↔ x.PrintsAlike) := by
  have hmarkup : (real x).inMarkup = .ok x.inMarkup := rfl
  constructor
  · simp only [Double.isScriptText_iff]
    exact existsUnique_eq
  · rw [← Double.inMarkup_eq_scriptText_iff, hmarkup]
    simp only [Double.isScriptText_iff, Except.ok.injEq, exists_eq_left']

/-- Ten to the twenty-first is written in full where a script prints an exponent. -/
theorem sextillion_inMarkup :
    (real (.ofInt (10 ^ 21))).inMarkup = .ok (lit "1000000000000000000000") ∧
      ∀ t, (Double.ofInt (10 ^ 21)).IsScriptText t ↔ t = lit "1e+21" := by
  have hmarkup : (Double.ofInt (10 ^ 21)).inMarkup = lit "1000000000000000000000" := by
    decide +kernel
  have hscript : (Double.ofInt (10 ^ 21)).scriptText = lit "1e+21" := by
    decide +kernel
  refine ⟨congrArg Except.ok hmarkup, fun t => ?_⟩
  rw [Double.isScriptText_iff, hscript]

end Number

end Formwright
