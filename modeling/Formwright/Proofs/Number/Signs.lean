import Formwright.Field.Item

/-!
The signs that numbers are written with: digits, a point, two signs, an exponent
mark and the letters of the words for what is not finite. None of them is a
quote or a line feed, and none is half of a surrogate pair.
-/

namespace Formwright

/-- The signs in numbers besides digits. -/
def numberMarks : Text := lit "+-.aefin"

def CodePoint.IsNumberSign (c : CodePoint) : Prop :=
  c.isDigit = true ∨ c ∈ numberMarks

instance (c : CodePoint) : Decidable c.IsNumberSign :=
  inferInstanceAs (Decidable (_ ∨ _))

namespace Text

theorem isDigit_of_mem_ofNat {n : Nat} {c : CodePoint} (h : c ∈ Text.ofNat n) :
    c.isDigit = true := by
  obtain ⟨d, hd, rfl⟩ := List.mem_map.mp h
  have hdigit := Nat.isDigit_of_mem_toDigits (by decide) (by decide) hd
  have hrange : 48 ≤ d.toNat ∧ d.toNat ≤ 57 := by
    simpa [Char.isDigit, UInt32.le_iff_toNat_le] using hdigit
  simp [CodePoint.isDigit, CodePoint.digit?, CodePoint.value, hrange]

/-- A text of number signs only. -/
def IsNumeral (t : Text) : Prop :=
  ∀ c ∈ t, c.IsNumberSign

instance (t : Text) : Decidable (IsNumeral t) :=
  inferInstanceAs (Decidable (∀ c ∈ t, _))

namespace IsNumeral

theorem append {s t : Text} (hs : IsNumeral s) (ht : IsNumeral t) : IsNumeral (s ++ t) := by
  intro c hc
  rcases List.mem_append.mp hc with hc | hc
  · exact hs c hc
  · exact ht c hc

theorem not_mem {t : Text} (h : IsNumeral t) {c : CodePoint} (hc : ¬ c.IsNumberSign) : c ∉ t :=
  fun hmem => hc (h c hmem)

theorem take {t : Text} (h : IsNumeral t) (n : Nat) : IsNumeral (t.take n) :=
  fun c hc => h c (List.mem_of_mem_take hc)

theorem drop {t : Text} (h : IsNumeral t) (n : Nat) : IsNumeral (t.drop n) :=
  fun c hc => h c (List.mem_of_mem_drop hc)

theorem ofNat (n : Nat) : IsNumeral (Text.ofNat n) :=
  fun _ hc => .inl (isDigit_of_mem_ofNat hc)

theorem ofInt (n : Int) : IsNumeral (Text.ofInt n) := by
  cases n with
  | ofNat n => exact ofNat n
  | negSucc n => exact append (s := [.scalar '-']) (by decide) (ofNat (n + 1))

theorem zeros (n : Nat) : IsNumeral (NumberStyle.zeros n) := by
  intro c hc
  rw [NumberStyle.zeros] at hc
  rw [List.eq_of_mem_replicate hc]
  decide

/-- However a decimal is laid out, it is made of number signs. -/
theorem layout (style : NumberStyle) (d : Decimal) : IsNumeral (style.layout d) := by
  have hdigits := ofNat d.digits
  have hpoint (b : Bool) : IsNumeral (if b then lit ".0" else []) := by
    cases b <;> decide
  simp only [NumberStyle.layout]
  split
  · split
    · exact ((hdigits.append (zeros _)).append (hpoint style.pointZero))
    · split
      · exact ((hdigits.take _).append (by decide)).append (hdigits.drop _)
      · exact (append (by decide) (zeros _)).append hdigits
  · refine append (append (append (append (append (append (hdigits.take 1) ?_)
      (hdigits.drop 1)) (by decide)) ?_) (zeros _)) (ofNat _)
    · split <;> decide
    · split <;> decide

theorem written (x : Double) : IsNumeral x.written := by
  have hsign (p : Prop) [Decidable p] : IsNumeral (if p then lit "-" else []) := by
    split <;> decide
  cases x with
  | nan => decide
  | infinite negative => cases negative <;> decide
  | finite negative x =>
    simp only [Double.written, NumberStyle.render]
    split
    · exact append (hsign _) (by decide)
    · exact append (hsign _) (layout _ _)

end IsNumeral

end Text

theorem Double.inMarkup_isNumeral (x : Double) : x.inMarkup.IsNumeral := by
  simp only [Double.inMarkup]
  split
  · exact Text.IsNumeral.ofInt _
  · exact Text.IsNumeral.written x

theorem writeInt_of_lt {n : Int} (h : n.natAbs < Numeral.tooLong) :
    writeInt n = .ok (Text.ofInt n) := by
  have hnumeral : Numeral.ofInt? n = some (Text.ofInt n) := by
    unfold Numeral.ofInt?
    rw [if_pos h]
  unfold writeInt
  rw [hnumeral]

theorem writeInt_of_not_lt {n : Int} (h : ¬ n.natAbs < Numeral.tooLong) :
    writeInt n = .error .numeralTooLong := by
  have hnumeral : Numeral.ofInt? n = none := by
    unfold Numeral.ofInt?
    rw [if_neg h]
  unfold writeInt
  rw [hnumeral]

namespace Number

/-- Whether a number can be written: only integers past the limit on digits cannot. -/
def Fits : Number → Prop
  | whole n => n.natAbs < Numeral.tooLong
  | real _ => True

theorem inMarkup_whole {n : Int} (h : n.natAbs < Numeral.tooLong) :
    (whole n).inMarkup = .ok (Text.ofInt n) := by
  rw [inMarkup, writeInt_of_lt h]

theorem inMarkup_whole_of_not {n : Int} (h : ¬ n.natAbs < Numeral.tooLong) :
    (whole n).inMarkup = .error .numeralTooLong := by
  rw [inMarkup, writeInt_of_not_lt h]

theorem exists_inMarkup_iff (n : Number) : (∃ t, n.inMarkup = .ok t) ↔ n.Fits := by
  cases n with
  | real x => exact ⟨fun _ => trivial, fun _ => ⟨_, rfl⟩⟩
  | whole n =>
    constructor
    · rintro ⟨t, ht⟩
      by_cases hfits : n.natAbs < Numeral.tooLong
      · exact hfits
      · rw [inMarkup_whole_of_not hfits] at ht
        cases ht
    · intro h
      exact ⟨_, inMarkup_whole h⟩

/-- The text of a number in markup, were there no limit on digits. -/
def markupText : Number → Text
  | whole n => Text.ofInt n
  | real x => x.inMarkup

theorem isNumeral_markupText (n : Number) : n.markupText.IsNumeral := by
  cases n with
  | whole n => exact Text.IsNumeral.ofInt n
  | real x => exact x.inMarkup_isNumeral

theorem eq_markupText {n : Number} {t : Text} (h : n.inMarkup = .ok t) : t = n.markupText := by
  cases n with
  | real x =>
    cases h
    rfl
  | whole n =>
    by_cases hfits : n.natAbs < Numeral.tooLong
    · rw [inMarkup_whole hfits] at h
      cases h
      rfl
    · rw [inMarkup_whole_of_not hfits] at h
      cases h

theorem isNumeral_of_inMarkup {n : Number} {t : Text} (h : n.inMarkup = .ok t) :
    t.IsNumeral := by
  rw [eq_markupText h]
  exact isNumeral_markupText n

end Number

end Formwright
