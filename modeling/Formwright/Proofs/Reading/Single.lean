import Formwright.Proofs.Reading.Yields
import Formwright.Reading.Item

/-!
Reading single values of decoded documents. The causes for which a value is
refused bring along no text of the document, and an integer that is read from a
text is within the limit as one in the document is.
-/

namespace Formwright

/-- Whether the value of a choice is a settled text or a number that can be written. -/
def Scalar.IsDecoded : Scalar → Prop
  | text t => t.IsSettled
  | number n => n.Fits

namespace Value

theorem IsDecoded.isSettled {t : Text} (h : (Value.text t).IsDecoded) : t.IsSettled := by
  obtain ⟨j, hj, hvalue⟩ := h
  cases hj with
  | text hsettled =>
    cases hvalue
    exact hsettled
  | null | bool | int | float | array | object => cases hvalue

theorem IsDecoded.natAbs_lt {n : Int} (h : (Value.int n).IsDecoded) :
    n.natAbs < Numeral.tooLong := by
  obtain ⟨j, hj, hvalue⟩ := h
  cases hj with
  | int hfits =>
    cases hvalue
    exact hfits
  | null | bool | float | text | array | object => cases hvalue

section Causes

variable {v : Value} {cause : Cause}

theorem isNamed_of_readText (h : v.readText = .error cause) : cause.IsNamed := by
  unfold readText at h
  split at h
  · cases h
  · split at h <;> cases h
    trivial
  · cases h
    trivial

theorem isNamed_of_interpreted? {badSyntax : Cause} (hbad : badSyntax.IsNamed)
    (h : v.interpreted? badSyntax = some (.error cause)) : cause.IsNamed := by
  unfold interpreted? at h
  split at h
  · split at h <;> cases h
    trivial
  · split at h <;> cases h
    exact hbad
  · cases h

theorem isNamed_of_integerOfReal {x : Double} (h : integerOfReal x = .error cause) :
    cause.IsNamed := by
  unfold integerOfReal at h
  split at h
  · cases h
    trivial
  · cases h
    trivial
  · split at h
    · cases h
      trivial
    · split at h <;> cases h
      trivial

theorem isNamed_of_readInteger (h : v.readInteger = .error cause) : cause.IsNamed := by
  unfold readInteger at h
  split at h
  · cases h
  · cases h
  · exact isNamed_of_integerOfReal h
  · split at h
    · cases h
      trivial
    · rename_i hinterpreted
      cases h
      exact isNamed_of_interpreted? (by trivial) hinterpreted
    · split at h <;> cases h <;> trivial

theorem isNamed_of_readReal (h : v.readReal = .error cause) : cause.IsNamed := by
  unfold readReal at h
  split at h
  · cases h
  · cases h
  · cases h
  · split at h
    · cases h
      trivial
    · rename_i hinterpreted
      cases h
      exact isNamed_of_interpreted? (by trivial) hinterpreted
    · split at h <;> cases h
      trivial

theorem isNamed_of_flagOfText {t : Text} (h : flagOfText t = .error cause) : cause.IsNamed := by
  unfold flagOfText at h
  extract_lets word at h
  split at h
  · cases h
  · split at h <;> cases h
    trivial

theorem isNamed_of_flagOfInteger {n : Int} (h : flagOfInteger n = .error cause) :
    cause.IsNamed := by
  unfold flagOfInteger at h
  split at h
  · cases h
  · split at h <;> cases h
    trivial

theorem isNamed_of_readFlag (h : v.readFlag = .error cause) : cause.IsNamed := by
  unfold readFlag at h
  split at h
  · cases h
  · split at h
    · exact isNamed_of_flagOfInteger h
    · cases h
      trivial
  · split at h
    · exact isNamed_of_flagOfInteger h
    · cases h
      trivial
  · split at h
    · cases h
      trivial
    · rename_i hinterpreted
      cases h
      exact isNamed_of_interpreted? (by trivial) hinterpreted
    · exact isNamed_of_flagOfText h

theorem isNamed_of_readName {kind : Kind} (h : kind.readName v = .error cause) :
    cause.IsNamed := by
  have hname : kind.name.IsScalar := by
    cases kind <;> exact Text.isScalar_lit _
  unfold Kind.readName at h
  split at h
  · split at h
    · cases h
    · split at h <;> cases h
      · exact hname
      · trivial
  · cases h
    exact hname

end Causes

section Single

variable {v : Value}

theorem readText_yields (h : v.IsDecoded) : (v.by readText).Yields Text.IsSettled := by
  apply Reading.Yields.ofCause _ (fun _ => isNamed_of_readText) h
  intro t ht
  obtain ⟨j, hj, rfl⟩ := h
  obtain rfl := readText_ofJson ht
  cases hj with
  | text hsettled => exact hsettled

theorem readOptionalText_yields (h : v.IsDecoded) :
    (v.by readOptionalText).Yields fun placeholder => ∀ t ∈ placeholder, t.IsSettled := by
  apply Reading.Yields.ofCause _ _ h
  · intro placeholder hread t ht
    unfold readOptionalText at hread
    split at hread
    · cases hread
      cases ht
    · obtain ⟨t', htext, rfl⟩ := Outcome.map_eq_ok.mp hread
      obtain rfl := Option.some.inj ht
      exact (readText_yields h).ok (Reading.ofCause_eq_ok.mpr htext)
  · intro cause hread
    unfold readOptionalText at hread
    split at hread
    · cases hread
    · exact isNamed_of_readText (Outcome.map_eq_error.mp hread)

theorem readFlag_yields (h : v.IsDecoded) : (v.by readFlag).Yields fun _ => True :=
  .ofCause (fun _ _ => trivial) (fun _ => isNamed_of_readFlag) h

theorem readInteger_yields (h : v.IsDecoded) : (v.by readInteger).Yields fun _ => True :=
  .ofCause (fun _ _ => trivial) (fun _ => isNamed_of_readInteger) h

theorem readName_yields (kind : Kind) (h : v.IsDecoded) :
    (v.by kind.readName).Yields fun _ => True :=
  .ofCause (fun _ _ => trivial) (fun _ => isNamed_of_readName) h

/-- An integer that is read, unless it is one already, is within the limit. -/
theorem readInteger_lt_tooLong {n : Int} (hv : ∀ m, v = .int m → m.natAbs < Numeral.tooLong)
    (h : v.readInteger = .ok n) : n.natAbs < Numeral.tooLong := by
  unfold readInteger at h
  split at h
  · cases h
    exact hv _ rfl
  · cases h
    split
    · exact Numeral.lt_tooLong_of_word (by decide) (by decide)
    · exact Numeral.lt_tooLong_of_word (by decide) (by decide)
  · unfold integerOfReal at h
    split at h
    · cases h
    · cases h
    · split at h
      · cases h
      · split at h
        · rename_i hword
          cases h
          exact Numeral.lt_tooLong_of_word hword.1 hword.2
        · cases h
  · split at h
    · cases h
    · cases h
    · split at h
      · rename_i hwhole
        cases h
        exact Numeral.readWhole_lt_tooLong hwhole
      · cases h
      · cases h

theorem refuseAll_isDecoded {causes : List (String × Cause)} (hv : v.IsDecoded)
    (h : ∀ entry ∈ causes, entry.2.IsNamed) : ∀ issue ∈ v.refuseAll causes, issue.IsDecoded := by
  rw [refuseAll, List.forall_mem_map]
  intro entry hentry
  refine ⟨?_, h entry hentry, hv⟩
  intro step hstep
  rw [List.mem_singleton.mp hstep]
  exact Text.isScalar_lit entry.1

theorem readNumber_yields (h : v.IsDecoded) : v.readNumber.Yields Number.Fits := by
  rw [readNumber.eq_def]
  split
  · exact .of_ok h.natAbs_lt
  · exact .of_ok trivial
  · rename_i hint _
    split
    · rename_i hread
      exact .of_ok (readInteger_lt_tooLong (fun m hm => absurd hm (hint m)) hread)
    · exact .of_ok trivial
    · rename_i hfirst hsecond
      apply Reading.Yields.of_error
      apply refuseAll_isDecoded h
      simp only [List.forall_mem_cons]
      exact ⟨isNamed_of_readInteger hfirst, isNamed_of_readReal hsecond, by simp⟩

theorem readScalar_yields (h : v.IsDecoded) : v.readScalar.Yields Scalar.IsDecoded := by
  rw [readScalar.eq_def]
  split
  · exact .of_ok h.isSettled
  · exact .of_ok h.natAbs_lt
  · exact .of_ok trivial
  · rename_i hint _
    split
    · rename_i hread
      exact .of_ok ((readText_yields h).ok (Reading.ofCause_eq_ok.mpr hread))
    · rename_i hread _
      exact .of_ok (readInteger_lt_tooLong (fun m hm => absurd hm (hint m)) hread)
    · exact .of_ok trivial
    · rename_i hfirst hsecond hthird
      apply Reading.Yields.of_error
      apply refuseAll_isDecoded h
      simp only [List.forall_mem_cons]
      exact ⟨isNamed_of_readText hfirst, isNamed_of_readInteger hsecond,
        isNamed_of_readReal hthird, by simp⟩

theorem readBound_yields (h : v.IsDecoded) :
    v.readBound.Yields fun bound => ∀ n ∈ bound, n.Fits := by
  rw [readBound.eq_def]
  split
  · exact .of_ok (by simp)
  · apply (readNumber_yields h).map
    intro n hn m hm
    obtain rfl := Option.some.inj hm
    exact hn

end Single

end Value

end Formwright
