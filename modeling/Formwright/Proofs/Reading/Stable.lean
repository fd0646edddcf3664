import Formwright.Proofs.Reading.Described
import Formwright.Proofs.Record.Fields

/-!
What reading makes of the class and the type of a descriptor. The type is kept, and
the class of the result is the one that the type asks for, whether the descriptor
was a mapping, a record of some other class or a copy with another type. A record
that was of that class already is the result itself, so what was read once is read
as it is from then on.
-/

namespace Formwright

namespace Record

/-- Whether a record describes a field: its class goes back to that of all descriptors and its
type is a text. What its other attributes hold does not matter here. -/
structure IsDescriptor (r : Record) : Prop where
  cls : RecordClass.base.includes r.cls = true
  type : ∃ t, member? (lit "type") r.attributes = some (.text t)

/-- Whether a record is of the class that its type asks for. -/
def IsSettled (r : Record) : Prop :=
  (RecordClass.ofKind? r.kind?).includes r.cls = true

/-- A copy that is given another type is a descriptor still. -/
theorem IsDescriptor.copy {r : Record} (h : r.IsDescriptor) (type : Text) :
    (r.copy [(lit "type", .text type)]).IsDescriptor :=
  ⟨h.cls, type, r.type_of_copy (.text type)⟩

theorem kind?_of_type {r : Record} {type : Text}
    (h : member? (lit "type") r.attributes = some (.text type)) :
    r.kind? = Kind.ofName? type := by
  rw [kind?, h]

end Record

namespace Source

/-- The record that a descriptor is, if it is one. -/
def record? : Source → Option Record
  | value (.model m) => some (.ofModel m)
  | value _ => none
  | record r => some r

/-- The attributes of a record or the members of a mapping. -/
def attributes : Source → List (Text × Value)
  | value (.model m) => m.toFields
  | value (.object members) => members
  | value _ => []
  | record r => r.attributes

/-- Whether a descriptor is a record that describes a field or a mapping from a document. -/
def IsDescriptor (s : Source) : Prop :=
  (∃ r, s.record? = some r ∧ r.IsDescriptor) ∨ ∃ members, s = value (.ofJson (.object members))

/-- What reading settles: the type is that of the descriptor, the class is the one that the type
asks for, no record of the class for unknown kinds has a known kind, and a record that was settled
before is the result itself. -/
structure Settles (s : Source) (p : Parsed) : Prop where
  type : ∃ t, member? (lit "type") s.attributes = some (.text t) ∧
    member? (lit "type") p.toRecord.attributes = some (.text t)
  known : ∀ kind, p.toRecord.kind? = some kind →
    (RecordClass.variant kind).includes p.toRecord.cls = true
  unknown : RecordClass.unknown.includes p.toRecord.cls = true ↔ p.toRecord.kind? = none
  same : ∀ r, s.record? = some r → r.IsSettled → p = .kept r

variable {s : Source} {p : Parsed}

theorem Settles.isSettled (h : s.Settles p) : p.toRecord.IsSettled := by
  rw [Record.IsSettled]
  cases hkind : p.toRecord.kind? with
  | some kind => exact h.known kind hkind
  | none => exact h.unknown.mpr hkind

end Source

end Formwright
