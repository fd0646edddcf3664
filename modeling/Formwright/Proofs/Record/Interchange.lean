import Formwright.Proofs.Reading.Alike
import Formwright.Proofs.Reading.Members
import Formwright.Proofs.Reading.Stable
import Formwright.Proofs.Record.Written

/-!
When a record and the mapping of its fields are interchangeable as descriptors. A
record that is settled passes through unread, so reading has to give back every value
that it can have put into one: each reader takes its own results for what they are.
Other records are read from their mapping anyway. So what can set a record apart from
its mapping is only a value that its own class lets through and the class of the
library does not.
-/

namespace Formwright

namespace Value

theorem readBound_boundValue (bound : Option Number) :
    (boundValue bound).readBound = .ok bound := by
  cases bound with
  | none => rfl
  | some n => cases n <;> rfl

theorem readScalar_toValue (s : Scalar) : s.toValue.readScalar = .ok s := by
  cases s with
  | text t => rfl
  | number n => cases n <;> rfl

theorem dump_toValue (s : Scalar) : s.toValue.dump = s.toValue := by
  cases s with
  | text t => rfl
  | number n => cases n <;> rfl

/-- A choice is read from its mapping as it was. -/
theorem readChoice_dumpChoice (c : Choice) :
    (dumpChoice (.model (.choice c))).readChoice = .ok c := by
  have hmapping : dumpChoice (.model (.choice c)) =
      .object [(lit "label", .text c.caption), (lit "value", c.value.toValue.dump)] := rfl
  rw [hmapping, dump_toValue]
  apply Mapping.readChoice_eq_ok.mpr
  exact ⟨Mapping.require_eq_ok.mpr ⟨_, rfl, rfl⟩,
    Mapping.require_eq_ok.mpr ⟨_, rfl, readScalar_toValue c.value⟩⟩

theorem readChoices_dumpChoices (choices : List Choice) :
    (dumpChoices (.list (choices.map fun c => .model (.choice c)))).readChoices = .ok choices := by
  rw [dumpChoices, List.map_map, readChoices_list_eq_ok, List.forall₂_map_left_iff]
  exact List.forall₂_same.mpr fun c _ => readChoice_dumpChoice c

end Value

namespace Mapping

/-- Whether the members of a mapping are the fields of an item, as a mapping holds them. -/
structure Holds (m : Mapping) (item : Item) : Prop where
  attributes : ∀ name ∈ RecordClass.baseFields,
    member? name m.members = member? name (item.toAttributes.toFields item.typeName)
  bounds : ∀ minimum maximum, item.control.bounds? = some (minimum, maximum) →
    member? (lit "min") m.members = some (boundValue minimum) ∧
      member? (lit "max") m.members = some (boundValue maximum)
  options : ∀ choices, item.control.options? = some choices →
    member? (lit "options") m.members =
      some (Value.dumpChoices (.list (choices.map fun c => .model (.choice c))))

variable {m : Mapping} {item : Item}

theorem Holds.readTypeName (h : m.Holds item) : m.readTypeName item.kind? = .ok item.typeName := by
  have htype : member? (lit "type") m.members = some (.text item.typeName) :=
    h.attributes _ (by decide)
  cases hkind : item.kind? with
  | some kind =>
    have hname := Kind.name_of_ofName? hkind
    rw [Mapping.readTypeName]
    apply getD_of_some htype
    apply Reading.ofCause_eq_ok.mpr
    rw [← hname]
    exact kind.readName_name
  | none => exact require_eq_ok.mpr ⟨_, htype, rfl⟩

theorem Holds.readAttributes (h : m.Holds item) :
    m.readAttributes item.kind? = .ok (item.typeName, item.toAttributes) := by
  have hmember (name : Text) (hname : name ∈ RecordClass.baseFields) := h.attributes name hname
  refine readAttributes_eq_ok.mpr ⟨?_, h.readTypeName, ?_, ?_, ?_, ?_, ?_⟩
  · exact require_eq_ok.mpr ⟨_, hmember (lit "id") (by decide), rfl⟩
  · exact require_eq_ok.mpr ⟨_, hmember (lit "label") (by decide), rfl⟩
  · exact require_eq_ok.mpr ⟨_, hmember (lit "field") (by decide), rfl⟩
  · apply getD_of_some (hmember (lit "placeholder") (by decide))
    cases item.placeholder <;> rfl
  · exact getD_of_some (hmember (lit "required") (by decide)) rfl
  · exact getD_of_some (hmember (lit "disabled") (by decide)) rfl

theorem Holds.readOptions (h : m.Holds item) {choices : List Choice}
    (hchoices : item.control.options? = some choices) : m.readOptions = .ok choices :=
  getD_of_some (h.options choices hchoices) (Value.readChoices_dumpChoices choices)

theorem Holds.readControl (h : m.Holds item) {kind : Kind}
    (hkind : item.control.kind? = some kind) : m.readControl kind = .ok item.control := by
  obtain ⟨attributes, control⟩ := item
  cases control with
  | input | textarea | date | switch =>
    obtain rfl := Option.some.inj hkind
    rfl
  | number minimum maximum =>
    obtain rfl := Option.some.inj hkind
    obtain ⟨hmin, hmax⟩ := h.bounds minimum maximum rfl
    exact readControl_number_eq_ok.mpr
      ⟨getD_of_some hmin (Value.readBound_boundValue minimum),
        getD_of_some hmax (Value.readBound_boundValue maximum)⟩
  | select choices | radio choices | checkbox choices =>
    obtain rfl := Option.some.inj hkind
    exact Outcome.map_eq_ok.mpr ⟨choices, h.readOptions rfl, rfl⟩
  | unknown type => cases hkind

/-- A mapping that holds a proper item is read as that item. -/
theorem Holds.readItem (h : m.Holds item) (hproper : item.IsProper) :
    m.readItem item.kind? = .ok item := by
  have hattributes := h.readAttributes
  cases hkind : item.kind? with
  | some kind =>
    rw [hkind] at hattributes
    have hcontrol : item.control.kind? = some kind := by
      rw [← hkind, ← hproper]
    exact readItem_some_of hattributes (h.readControl hcontrol)
  | none =>
    rw [hkind] at hattributes
    have hcontrol : item.control = .unknown item.typeName := by
      have hnone : item.control.kind? = none := by
        rw [← hkind, ← hproper]
      obtain ⟨attributes, control⟩ := item
      cases control with
      | unknown type => rfl
      | input | textarea | number | select | radio | checkbox | date | switch => cases hnone
    have hread := readItem_none_of hattributes
    rw [← hcontrol] at hread
    exact hread

end Mapping

namespace Record

/-- Whether a record has the fields of a valid one, whose class its own goes back to, except for
those listed. What it has besides them is left open. -/
structure Bears (r : Record) (redeclared : List Text) (m : Model) : Prop where
  origin : r.cls.origin = m.recordClass
  fields : ∀ name ∈ m.recordClass.fields, name ∉ redeclared →
    member? name r.attributes = member? name m.toFields

/-- Whether a record is valid for the class of the library that its own goes back to, except for
some fields, which may hold anything. This is what can be said of a record that was built by
validation when its class declares these fields again, with rules of its own. A list that holds
choices of a derived class is not one of plain choices, and so not valid in this sense. -/
def IsValidOutside (redeclared : List Text) (r : Record) : Prop :=
  ∃ m, r.Bears redeclared m

variable {r : Record} {m : Model} {item : Item}

theorem Bears.field (h : r.Bears [] m) {name : Text} (hname : name ∈ m.recordClass.fields) :
    member? name r.attributes = member? name m.toFields :=
  h.fields name hname List.not_mem_nil

/-- A class that is derived with further fields, and declares none of its parent's again, keeps
its records valid. -/
theorem IsValidOutside.derived (h : r.IsValidOutside []) (name : Text)
    (more : List (Text × Value)) :
    IsValidOutside [] ⟨.derived name r.cls (more.map Prod.fst), r.attributes ++ more⟩ := by
  obtain ⟨m, hbears⟩ := h
  refine ⟨m, hbears.origin, fun field hfield _ => ?_⟩
  have hthere : field ∈ r.attributes.map Prod.fst := by
    rw [← isSome_member?_iff, hbears.field hfield, isSome_member?_iff, Model.names_toFields]
    exact hfield
  exact (member?_append hthere more).trans (hbears.field hfield)

/-- A record that is of the class that its type asks for has the fields of a proper item. -/
theorem Bears.exists_item (h : r.Bears [] m) (hsettled : r.IsSettled) :
    ∃ item, m = .item item ∧ item.IsProper := by
  have hclass : m.recordClass = RecordClass.ofKind? r.kind? :=
    h.origin.symm.trans (RecordClass.ofKind?_includes_iff.mp hsettled)
  cases m with
  | item item =>
    have hkind : item.control.kind? = r.kind? :=
      RecordClass.ofKind?_injective (item.control.recordClass_eq.symm.trans hclass)
    have hdeclared : lit "type" ∈ (Model.item item).recordClass.fields :=
      RecordClass.mem_fields_of_base item.control.base_includes_recordClass (by decide)
    have htype : member? (lit "type") r.attributes = some (.text item.typeName) :=
      h.field hdeclared
    exact ⟨item, rfl, (kind?_of_type htype).symm.trans hkind.symm⟩
  | derived name m => exact absurd hclass.symm (RecordClass.ofKind?_ne_derived _ _ _ _)
  | choice | base | optioned | component =>
    cases hkind : r.kind? <;> rw [hkind] at hclass <;> cases hclass

section

variable {members : List (Text × Value)}

end

end Record

namespace Parsed

/-- Whether the first of two results counts as one of the class of the second and is the same in
each field of that class, values of different types told apart. -/
structure Matches (p q : Parsed) : Prop where
  cls : q.toRecord.cls.includes p.toRecord.cls = true
  fields : ∀ name ∈ q.toRecord.cls.fields,
    member? name p.toRecord.attributes = member? name q.toRecord.attributes

theorem Matches.refl (p : Parsed) : p.Matches p :=
  ⟨RecordClass.includes_self _, fun _ _ => rfl⟩

end Parsed

namespace Record

variable {r : Record}

end Record

end Formwright
