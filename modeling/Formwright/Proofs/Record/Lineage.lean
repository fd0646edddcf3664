import Formwright.Record.Basic

/-!
Classes and what is derived from them. Every class goes back to one class of the
library, and a record counts as one of a kind, or of no known kind, exactly when
its class goes back to the class of that kind. So it counts as one of at most one.
-/

namespace Formwright

namespace RecordClass

/-- The class of the library that a class goes back to. -/
def origin : RecordClass → RecordClass
  | derived _ parent _ => parent.origin
  | c => c

theorem includes_self (c : RecordClass) : c.includes c = true := by
  cases c <;> simp [includes]

theorem ofKind?_ne_derived (kind : Option Kind) (name : Text) (parent : RecordClass)
    (added : List Text) : ofKind? kind ≠ derived name parent added := by
  cases kind <;> simp [ofKind?]

theorem ofKind?_injective {kind kind' : Option Kind} (h : ofKind? kind = ofKind? kind') :
    kind = kind' := by
  cases kind <;> cases kind' <;> simp_all [ofKind?]

/-- Whether records of a class count as those of a kind is decided by where the class goes back
to. -/
theorem ofKind?_includes_iff {kind : Option Kind} {c : RecordClass} :
    (ofKind? kind).includes c = true ↔ c.origin = ofKind? kind := by
  induction c with
  | derived name parent added ih =>
    simp only [includes, ofKind?_ne_derived, decide_false, Bool.false_or, ih, origin]
  | choice | base | optioned | variant | unknown | component =>
    cases kind <;> simp [ofKind?, includes, origin, eq_comm]

/-- Every class of descriptors declares the fields of all items. -/
theorem mem_fields_of_base {name : Text} {c : RecordClass} (h : base.includes c = true)
    (hname : name ∈ baseFields) : name ∈ c.fields := by
  induction c with
  | derived _ parent added ih =>
    have hparent : base.includes parent = true := by
      simpa [includes] using h
    exact List.mem_append_left _ (ih hparent)
  | choice | component => simp [includes] at h
  | base | unknown => exact hname
  | optioned => exact List.mem_append_left _ hname
  | variant kind =>
    cases kind <;> first | exact hname | exact List.mem_append_left _ hname

end RecordClass

namespace Control

theorem origin_recordClass (control : Control) :
    control.recordClass.origin = control.recordClass := by
  cases control <;> rfl

theorem base_includes_recordClass (control : Control) :
    RecordClass.base.includes control.recordClass = true := by
  cases control <;> simp [recordClass, RecordClass.includes]

end Control

end Formwright
