import Formwright.Proofs.Reading.Described
import Formwright.Proofs.Reading.Report

/-!
What comes of a reading of decoded parts, whatever its outcome. The ways in which
readings are put together keep to it, so each reader has one statement for its
results and its issues.
-/

namespace Formwright

/-- What comes of a reading of decoded parts: a result that is as it should be, or issues that are
all with decoded parts. -/
structure Reading.Yields {α : Type} (good : α → Prop) (r : Reading α) : Prop where
  ok : ∀ {a}, r = .ok a → good a
  issues : ∀ {issues}, r = .error issues → ∀ issue ∈ issues, issue.IsDecoded

namespace Reading.Yields

variable {α β : Type} {good : α → Prop} {good' : β → Prop}

theorem of_ok {a : α} (h : good a) : Yields good (.ok a) where
  ok heq := by
    cases heq
    exact h
  issues heq := by cases heq

theorem of_error {found : List Issue} (h : ∀ issue ∈ found, issue.IsDecoded) :
    Yields good (.error found : Reading α) where
  ok heq := by cases heq
  issues heq := by
    cases heq
    exact h

theorem refuse {cause : Cause} {input : Value} (hcause : cause.IsNamed) (hinput : input.IsDecoded) :
    (Reading.refuse cause input : Reading α).Yields good := by
  apply of_error
  intro issue hissue
  rw [List.mem_singleton.mp hissue]
  exact ⟨by simp, hcause, hinput⟩

theorem ofCause {input : Value} {x : Except Cause α} (hok : ∀ a, x = .ok a → good a)
    (herror : ∀ cause, x = .error cause → cause.IsNamed) (hinput : input.IsDecoded) :
    (Reading.ofCause input x).Yields good := by
  cases x with
  | ok a => exact of_ok (hok a rfl)
  | error cause => exact refuse (herror cause rfl) hinput

theorem map {r : Reading α} {f : α → β} (hr : r.Yields good) (h : ∀ a, good a → good' (f a)) :
    Yields good' (r.map f) := by
  cases r with
  | ok a => exact of_ok (h a (hr.ok rfl))
  | error issues => exact of_error (hr.issues rfl)

theorem both {r : Reading α} {s : Reading β} (hr : r.Yields good) (hs : s.Yields good') :
    (Reading.both r s).Yields fun pair => good pair.1 ∧ good' pair.2 := by
  cases r with
  | ok a =>
    cases s with
    | ok b => exact of_ok ⟨hr.ok rfl, hs.ok rfl⟩
    | error later => exact of_error (hs.issues rfl)
  | error issues =>
    have hall := hr.issues rfl
    cases s with
    | ok b => exact of_error hall
    | error later =>
      apply of_error
      intro issue hissue
      exact (List.mem_append.mp hissue).elim (hall issue) (hs.issues rfl issue)

theorem within {step : Step} {r : Reading α} (hstep : step.written.IsScalar) (hr : r.Yields good) :
    (r.within step).Yields good := by
  cases r with
  | ok a => exact of_ok (hr.ok rfl)
  | error issues =>
    apply of_error
    intro issue hissue
    obtain ⟨inner, hinner, rfl⟩ := List.mem_map.mp hissue
    obtain ⟨hplace, hcause, hinput⟩ := hr.issues rfl inner hinner
    exact ⟨List.forall_mem_cons.mpr ⟨hstep, hplace⟩, hcause, hinput⟩

theorem all {readings : List (Reading α)} (h : ∀ r ∈ readings, r.Yields good) :
    (Reading.all readings).Yields fun results => ∀ a ∈ results, good a := by
  induction readings with
  | nil => exact of_ok (by simp)
  | cons r readings ih =>
    rw [List.forall_mem_cons] at h
    exact (both h.1 (ih h.2)).map fun _ hpair => List.forall_mem_cons.mpr hpair

end Reading.Yields

namespace Mapping

variable {α : Type} {good : α → Prop} {m : Mapping}

/-- Whether a mapping is that of a decoded document. -/
def IsDecoded (m : Mapping) : Prop :=
  m.toValue.IsDecoded

theorem IsDecoded.member {name : Text} {v : Value} (h : m.IsDecoded)
    (hv : member? name m.members = some v) : v.IsDecoded := by
  obtain ⟨members⟩ := m
  obtain ⟨j, hj, hvalue⟩ := h
  cases hj with
  | object hnames hvalues =>
    cases hvalue
    rw [member?_membersOfJson] at hv
    obtain ⟨j, hmember, rfl⟩ := Option.map_eq_some_iff.mp hv
    exact ⟨j, hvalues _ (mem_of_member? hmember), rfl⟩
  | null | bool | int | float | text | array => cases hvalue

theorem require_yields (name : String) {read : Value → Reading α} (hm : m.IsDecoded)
    (h : ∀ v : Value, v.IsDecoded → (read v).Yields good) : (m.require name read).Yields good := by
  have hstep : (Step.key (lit name)).written.IsScalar := Text.isScalar_lit name
  rw [require]
  apply Reading.Yields.within hstep
  split
  · rename_i v hv
    exact h v (hm.member hv)
  · exact Reading.Yields.refuse trivial hm

theorem getD_yields (name : String) {default : α} {read : Value → Reading α} (hm : m.IsDecoded)
    (hdefault : good default) (h : ∀ v : Value, v.IsDecoded → (read v).Yields good) :
    (m.getD name default read).Yields good := by
  rw [getD]
  split
  · rename_i v hv
    have hstep : (Step.key (lit name)).written.IsScalar := Text.isScalar_lit name
    exact (h v (hm.member hv)).within hstep
  · exact .of_ok hdefault

end Mapping

end Formwright
