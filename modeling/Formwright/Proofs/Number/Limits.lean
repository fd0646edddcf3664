import Formwright.Number.Reading

/-!
An integer that was read can be written again: the readers and the writer keep to
one limit on digits.
-/

namespace Formwright

theorem tenTo_le {m n : Nat} (h : m ≤ n) : tenTo m ≤ tenTo n :=
  Nat.pow_le_pow_right (by decide) h

theorem CodePoint.digit?_lt {c : CodePoint} {d : Nat} (h : c.digit? = some d) : d < 10 := by
  rw [digit?] at h
  split at h
  · cases h
    omega
  · cases h

namespace Numeral

theorem foldl_digits_lt {digits : List Nat} (h : ∀ d ∈ digits, d < 10) (n : Nat) :
    digits.foldl (fun n d => 10 * n + d) n < (n + 1) * tenTo digits.length := by
  induction digits generalizing n with
  | nil => exact Nat.lt_of_lt_of_eq (Nat.lt_succ_self n) (Nat.mul_one _).symm
  | cons d digits ih =>
    rw [List.forall_mem_cons] at h
    have hstep : 10 * n + d + 1 ≤ (n + 1) * 10 := by omega
    have hpower : tenTo (digits.length + 1) = 10 * tenTo digits.length :=
      Nat.pow_succ' ..
    calc (d :: digits).foldl (fun n d => 10 * n + d) n
        < (10 * n + d + 1) * tenTo digits.length := ih h.2 (10 * n + d)
      _ ≤ (n + 1) * 10 * tenTo digits.length := Nat.mul_le_mul_right _ hstep
      _ = (n + 1) * tenTo (d :: digits).length := by
        rw [List.length_cons, hpower, Nat.mul_assoc]

theorem valueOf_lt {digits : List Nat} (h : ∀ d ∈ digits, d < 10) :
    valueOf digits < tenTo digits.length := by
  have hlt := foldl_digits_lt h 0
  rwa [Nat.zero_add, Nat.one_mul] at hlt

theorem natAbs_signed (negative : Bool) (n : Nat) : (signed negative n).natAbs = n := by
  cases negative with
  | false => exact Int.natAbs_natCast n
  | true => exact (Int.natAbs_neg n).trans (Int.natAbs_natCast n)

/-- Digits within the limit spell an integer that can be written. -/
theorem signed_lt_tooLong {digits : Text} (negative : Bool) (h : digits.length ≤ digitLimit) :
    (signed negative (valueOf (digits.filterMap CodePoint.digit?))).natAbs < tooLong := by
  have hdigits : ∀ d ∈ digits.filterMap CodePoint.digit?, d < 10 := by
    intro d hd
    obtain ⟨c, -, hc⟩ := List.mem_filterMap.mp hd
    exact CodePoint.digit?_lt hc
  have hlength := Nat.le_trans (List.length_filterMap_le CodePoint.digit? digits) h
  rw [natAbs_signed]
  exact Nat.lt_of_lt_of_le (valueOf_lt hdigits) (tenTo_le hlength)

theorem lt_tooLong_of_word {n : Int} (hlow : -wordBound < n) (hhigh : n < wordBound) :
    n.natAbs < tooLong := by
  have hpower : tenTo 19 = 10000000000000000000 := rfl
  have hlimit : tenTo 19 ≤ tooLong := tenTo_le (by decide)
  have hword : n.natAbs < tenTo 19 := by
    rw [wordBound] at hlow hhigh
    omega
  exact Nat.lt_of_lt_of_le hword hlimit

theorem readPlainWhole_lt_tooLong {t : Text} {n : Int} (h : readPlainWhole t = .ok n) :
    n.natAbs < tooLong := by
  unfold readPlainWhole at h
  split at h
  rename_i negative body hsign
  extract_lets digits length at h
  split at h
  · cases h
  split at h
  · cases h
  rename_i hlimit
  split at h
  · cases h
  · cases h
    apply signed_lt_tooLong
    simp only [length] at hlimit
    omega

theorem readWhole_lt_tooLong {t : Text} {n : Int} (h : readWhole t = .ok n) :
    n.natAbs < tooLong := by
  unfold readWhole at h
  split at h
  split at h
  · cases h
  · exact readPlainWhole_lt_tooLong h

end Numeral

end Formwright
