import Formwright.Descriptors
import Formwright.Proofs.Outcome

/-!
Items that come from reading. The kind that judges a mapping is the kind of the
item that comes of it, so a known kind always meets the control it is written
with. A type name given as bytes is the one exception: it names no kind when the
judge is chosen and may name one once it is read. Documents have no bytes.
-/

namespace Formwright

namespace Control

/-- The kind that a control belongs to. -/
def kind? : Control → Option Kind
  | input => some .input
  | textarea => some .textarea
  | number _ _ => some .number
  | select _ => some .select
  | radio _ => some .radio
  | checkbox _ => some .checkbox
  | date => some .date
  | switch => some .switch
  | unknown _ => none

theorem typeName_of_kind? {control : Control} {kind : Kind} (h : control.kind? = some kind) :
    control.typeName = kind.name := by
  cases control <;> simp only [kind?, Option.some.injEq, reduceCtorEq] at h <;> subst h <;> rfl

theorem recordClass_eq (control : Control) :
    control.recordClass = RecordClass.ofKind? control.kind? := by
  cases control <;> rfl

end Control

namespace Item

/-- Whether an item is written as its control wants to be: an unknown control may not carry the
name of a known kind. -/
def IsProper (item : Item) : Prop :=
  item.kind? = item.control.kind?

instance (item : Item) : Decidable item.IsProper :=
  inferInstanceAs (Decidable (_ = _))

theorem kind?_of_control {item : Item} {kind : Kind} (h : item.control.kind? = some kind) :
    item.kind? = some kind := by
  rw [Item.kind?, Item.typeName, Control.typeName_of_kind? h, Kind.ofName?_name]

theorem isProper_of_control {item : Item} {kind : Kind} (h : item.control.kind? = some kind) :
    item.IsProper :=
  (kind?_of_control h).trans h.symm

end Item

theorem mem_of_member? {α : Type} {name : Text} {members : List (Text × α)} {value : α}
    (h : member? name members = some value) : (name, value) ∈ members := by
  induction members with
  | nil => cases h
  | cons member members ih =>
    obtain ⟨n, v⟩ := member
    rw [member?] at h
    split at h
    · rename_i hname
      cases h
      rw [hname]
      exact List.mem_cons_self
    · exact List.mem_cons_of_mem _ (ih h)

theorem member?_membersOfJson (name : Text) (members : List (Text × Json)) :
    member? name (membersOfJson members) = (member? name members).map Value.ofJson := by
  induction members with
  | nil => rfl
  | cons member members ih =>
    obtain ⟨n, j⟩ := member
    by_cases h : n = name <;> simp [membersOfJson, member?, h, ih]

theorem member?_ofJson {name : Text} {members : List (Text × Json)} {j : Json}
    (h : member? name members = some j) :
    member? name (membersOfJson members) = some (Value.ofJson j) := by
  rw [member?_membersOfJson, h]
  rfl

namespace Mapping

variable {α : Type}

theorem require_eq_ok {m : Mapping} {name : String} {read : Value → Reading α} {a : α} :
    m.require name read = .ok a ↔ ∃ v, member? (lit name) m.members = some v ∧ read v = .ok a := by
  rw [require, Reading.within_eq_ok]
  cases member? (lit name) m.members with
  | none => simp [Reading.refuse]
  | some v => simp

/-- The type name, which has to be that of the kind when there is one. -/
def readTypeName (kind : Option Kind) (m : Mapping) : Reading Text :=
  match kind with
  | some kind => m.getD "type" kind.name (Value.by kind.readName)
  | none => m.require "type" (Value.by Value.readText)

/-- Attributes are read when each of them is. -/
theorem readAttributes_eq_ok {kind : Option Kind} {m : Mapping} {type : Text}
    {attributes : Attributes} :
    m.readAttributes kind = .ok (type, attributes) ↔
      m.require "id" (Value.by Value.readInteger) = .ok attributes.id ∧
      m.readTypeName kind = .ok type ∧
      m.require "label" (Value.by Value.readText) = .ok attributes.label ∧
      m.require "field" (Value.by Value.readText) = .ok attributes.field ∧
      m.getD "placeholder" none (Value.by Value.readOptionalText) = .ok attributes.placeholder ∧
      m.getD "required" false (Value.by Value.readFlag) = .ok attributes.required ∧
      m.getD "disabled" false (Value.by Value.readFlag) = .ok attributes.disabled := by
  unfold readAttributes
  rw [Outcome.map_eq_ok]
  constructor
  · rintro ⟨⟨id, type', label, field, placeholder, required, disabled⟩, hread, heq⟩
    cases heq
    simp only [Reading.both_eq_ok] at hread
    exact hread
  · intro h
    refine ⟨(attributes.id, type, attributes.label, attributes.field, attributes.placeholder,
      attributes.required, attributes.disabled), ?_, rfl⟩
    simp only [Reading.both_eq_ok]
    exact h

theorem kind?_of_readControl {kind : Kind} {m : Mapping} {control : Control}
    (h : m.readControl kind = .ok control) : control.kind? = some kind := by
  cases kind <;> simp only [readControl, Outcome.map_eq_ok, Except.ok.injEq] at h
  case number =>
    obtain ⟨bounds, -, rfl⟩ := h
    rfl
  case select | radio | checkbox =>
    obtain ⟨options, -, rfl⟩ := h
    rfl
  all_goals
    subst h
    rfl

theorem readItem_some_eq_ok {kind : Kind} {m : Mapping} {item : Item}
    (h : m.readItem (some kind) = .ok item) :
    (∃ type, m.readAttributes (some kind) = .ok (type, item.toAttributes)) ∧
      m.readControl kind = .ok item.control := by
  obtain ⟨⟨⟨type, attributes⟩, control⟩, hboth, heq⟩ := Outcome.map_eq_ok.mp h
  cases heq
  obtain ⟨hattributes, hcontrol⟩ := Reading.both_eq_ok.mp hboth
  exact ⟨⟨type, hattributes⟩, hcontrol⟩

theorem readItem_none_eq_ok {m : Mapping} {item : Item} (h : m.readItem none = .ok item) :
    ∃ type, item.control = .unknown type ∧
      m.readAttributes none = .ok (type, item.toAttributes) := by
  obtain ⟨⟨type, attributes⟩, hattributes, heq⟩ := Outcome.map_eq_ok.mp h
  cases heq
  exact ⟨type, rfl, hattributes⟩

/-- The kind that judges a mapping is the kind of the item's control. -/
theorem kind?_of_readItem {kind : Option Kind} {m : Mapping} {item : Item}
    (h : m.readItem kind = .ok item) : item.control.kind? = kind := by
  cases kind with
  | some kind => exact kind?_of_readControl (readItem_some_eq_ok h).2
  | none =>
    obtain ⟨type, hcontrol, -⟩ := readItem_none_eq_ok h
    rw [hcontrol]
    rfl

end Mapping

namespace Value

/-- Only a mapping is read into an item, and its own type chooses the judge. -/
theorem readItem_eq_ok {v : Value} {item : Item} (h : v.readItem = .ok item) :
    ∃ members, v = .object members ∧ Mapping.readItem v.kind? ⟨members⟩ = .ok item := by
  unfold readItem at h
  rw [Reading.within_eq_ok] at h
  cases v with
  | object members => exact ⟨members, rfl, h⟩
  | null | bool | int | float | text | bytes | list | tuple | bag | model =>
    exact absurd h Reading.refuse_ne_ok

theorem readText_ofJson {j : Json} {t : Text} (h : (ofJson j).readText = .ok t) : j = .text t := by
  cases j with
  | text t' =>
    cases h
    rfl
  | null | bool | int | float | array | object => cases h

/-- A mapping whose type is a text keeps it, and the item is judged by the kind that it names. -/
theorem settled_of_readItem {members : List (Text × Value)} {type : Text} {item : Item}
    (htype : member? (lit "type") members = some (.text type))
    (h : (object members).readItem = .ok item) : item.typeName = type ∧ item.IsProper := by
  obtain ⟨members, hmembers, hitem⟩ := readItem_eq_ok h
  obtain rfl := Value.object.inj hmembers
  have hjudge : (object members).kind? = Kind.ofName? type := by
    simp [kind?, htype]
  have hkind := Mapping.kind?_of_readItem hitem
  rw [hjudge] at hkind hitem
  cases hname : Kind.ofName? type with
  | some kind =>
    rw [hname] at hkind
    have htypeName := Control.typeName_of_kind? hkind
    exact ⟨htypeName.trans (Kind.name_of_ofName? hname), Item.isProper_of_control hkind⟩
  | none =>
    rw [hname] at hitem
    obtain ⟨type', hcontrol, hattributes⟩ := Mapping.readItem_none_eq_ok hitem
    obtain ⟨-, hread, -⟩ := Mapping.readAttributes_eq_ok.mp hattributes
    obtain ⟨v, hv, htext⟩ := Mapping.require_eq_ok.mp hread
    rw [htype] at hv
    obtain rfl := Option.some.inj hv
    obtain rfl := Except.ok.inj htext
    have htypeName : item.typeName = type := by
      rw [Item.typeName, hcontrol]
      rfl
    refine ⟨htypeName, ?_⟩
    rw [Item.IsProper, Item.kind?, htypeName, hname, hcontrol]
    rfl

/-- The type of a document that is read is a text. -/
theorem type_of_readItem_ofJson {members : List (Text × Json)} {item : Item}
    (h : (ofJson (.object members)).readItem = .ok item) :
    ∃ type, member? (lit "type") (membersOfJson members) = some (.text type) := by
  obtain ⟨members', hmembers, hitem⟩ := readItem_eq_ok h
  obtain rfl := Value.object.inj hmembers
  cases hjudge : (ofJson (.object members)).kind? with
  | some kind =>
    simp only [kind?, ofJson] at hjudge
    split at hjudge
    · rename_i name hname
      exact ⟨name, hname⟩
    · cases hjudge
  | none =>
    rw [hjudge] at hitem
    obtain ⟨type, -, hattributes⟩ := Mapping.readItem_none_eq_ok hitem
    obtain ⟨-, hread, -⟩ := Mapping.readAttributes_eq_ok.mp hattributes
    obtain ⟨v, hv, htext⟩ := Mapping.require_eq_ok.mp hread
    refine ⟨type, hv.trans ?_⟩
    rw [member?_membersOfJson] at hv
    obtain ⟨j, -, rfl⟩ := Option.map_eq_some_iff.mp hv
    obtain rfl := readText_ofJson (Reading.ofCause_eq_ok.mp htext)
    rfl

theorem isProper_of_readItem_ofJson {j : Json} {item : Item} (h : (ofJson j).readItem = .ok item) :
    item.IsProper := by
  cases j with
  | object members =>
    obtain ⟨type, htype⟩ := type_of_readItem_ofJson h
    exact (settled_of_readItem htype h).2
  | null | bool | int | float | text | array =>
    obtain ⟨members, hmembers, -⟩ := readItem_eq_ok h
    cases hmembers

end Value

theorem readSourcesFrom_eq_ok {sources : List Source} {parsed : List Parsed} (index : Nat) :
    List.Forall₂ (fun r p => r = .ok p) (readSourcesFrom index sources) parsed ↔
      List.Forall₂ (fun s p => s.read = .ok p) sources parsed := by
  induction sources generalizing index parsed with
  | nil => cases parsed <;> simp [readSourcesFrom]
  | cons s sources ih =>
    cases parsed with
    | nil => simp [readSourcesFrom]
    | cons p parsed =>
      simp only [readSourcesFrom, List.forall₂_cons, Reading.within_eq_ok, ih (index + 1)]

/-- A list of descriptors is read when each of them is. -/
theorem readDescriptors_eq_ok {values : List Value} {parsed : List Parsed} :
    readDescriptors values = .ok parsed ↔
      List.Forall₂ (fun v p => (Source.value v).read = .ok p) values parsed := by
  rw [readDescriptors, readSources, Outcome.mapError_eq_ok, Reading.all_eq_ok,
    readSourcesFrom_eq_ok, List.forall₂_map_left_iff]

theorem Source.read_ofJson (j : Json) :
    (Source.value (Value.ofJson j)).read = (Value.ofJson j).readItem.map .fresh := by
  cases j <;> rfl

/-- Whether the documents of a list, read as descriptors, are these items. -/
def Describes (documents : List Json) (items : List Item) : Prop :=
  readDescriptors (valuesOfJson documents) = .ok (items.map .fresh)

theorem valuesOfJson_eq_map (documents : List Json) :
    valuesOfJson documents = documents.map Value.ofJson := by
  induction documents with
  | nil => rfl
  | cons j documents ih => rw [valuesOfJson, ih, List.map_cons]

theorem describes_iff {documents : List Json} {items : List Item} :
    Describes documents items ↔
      List.Forall₂ (fun j item => (Value.ofJson j).readItem = .ok item) documents items := by
  rw [Describes, readDescriptors_eq_ok, valuesOfJson_eq_map, List.forall₂_map_left_iff,
    List.forall₂_map_right_iff]
  simp only [Source.read_ofJson, Outcome.map_eq_ok, Parsed.fresh.injEq, exists_eq_right]

/-- Documents that are read at all are read into items, all of them new. -/
theorem exists_describes {documents : List Json} {parsed : List Parsed}
    (h : readDescriptors (valuesOfJson documents) = .ok parsed) :
    ∃ items, parsed = items.map .fresh ∧ Describes documents items := by
  have hall := readDescriptors_eq_ok.mp h
  rw [valuesOfJson_eq_map, List.forall₂_map_left_iff] at hall
  have hfresh : ∃ items : List Item, parsed = items.map .fresh := by
    clear h
    induction hall with
    | nil => exact ⟨[], rfl⟩
    | cons hread hrest ih =>
      obtain ⟨items, rfl⟩ := ih
      rw [Source.read_ofJson] at hread
      obtain ⟨item, -, rfl⟩ := Outcome.map_eq_ok.mp hread
      exact ⟨item :: items, rfl⟩
  obtain ⟨items, rfl⟩ := hfresh
  exact ⟨items, rfl, h⟩

theorem Describes.isProper {documents : List Json} {items : List Item}
    (h : Describes documents items) : ∀ item ∈ items, item.IsProper := by
  have hall := describes_iff.mp h
  clear h
  induction hall with
  | nil => simp
  | cons hread hrest ih =>
    intro item hitem
    rcases List.mem_cons.mp hitem with rfl | hitem
    · exact Value.isProper_of_readItem_ofJson hread
    · exact ih item hitem

end Formwright
