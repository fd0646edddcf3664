import Formwright.Json.Schema

/-!
What a published schema means. A schema is published as a document, and its
readers go by the keywords in that document: each of them asks for something on
its own, and names that are no keywords are notes. The check that a schema makes
itself agrees with the meaning of the document it is published as.
-/

namespace Formwright

/-- The keywords that ask for something. -/
inductive Keyword where
  | type
  | enum
  | items
  | properties
  | required

/-- The keyword of that name. -/
def Keyword.ofName? (name : Text) : Option Keyword :=
  member? name [(lit "type", type), (lit "enum", enum), (lit "items", items),
    (lit "properties", properties), (lit "required", required)]

/-- The types that a schema can ask for. -/
inductive TypeName where
  | null
  | boolean
  | integer
  | number
  | string
  | array
  | object

/-- The type of that name. -/
def TypeName.ofName? (name : Text) : Option TypeName :=
  member? name [(lit "null", null), (lit "boolean", boolean), (lit "integer", integer),
    (lit "number", number), (lit "string", string), (lit "array", array), (lit "object", object)]

namespace Json

/-- Whether a document is of a type. Integers are the numbers without fraction, however they are
written. -/
def HasType : TypeName → Json → Prop
  | .null, null => True
  | .boolean, bool _ => True
  | .integer, int _ => True
  | .integer, float x => x.toInt?.isSome
  | .number, int _ => True
  | .number, float _ => True
  | .string, text _ => True
  | .array, array _ => True
  | .object, object _ => True
  | _, _ => False

/-- Whether a document is of the type of that name. -/
def HasTypeNamed (name : Text) (j : Json) : Prop :=
  ∃ type, TypeName.ofName? name = some type ∧ j.HasType type

/-- What the value of the keyword for types asks for: the one type or any of several. -/
def HasTypeAmong (value j : Json) : Prop :=
  match value with
  | text name => j.HasTypeNamed name
  | array names => ∃ name, text name ∈ names ∧ j.HasTypeNamed name
  | _ => True

/-- What the value of the keyword for constants asks for: one of them, as it stands there. -/
def IsAmong (value j : Json) : Prop :=
  ∀ options, value = array options → j ∈ options

/-- What the value of the keyword for required members asks for: those members. -/
def HasMembers (value j : Json) : Prop :=
  ∀ names, value = array names → ∀ members, j = object members →
    ∀ name, text name ∈ names → ∃ found, member? name members = some found

mutual

/-- Whether a published schema admits a document. -/
def Admits : Json → Json → Prop
  | object keywords, j => AdmitsByAll keywords j
  | _, _ => True

/-- Whether every keyword of a schema finds in a document what it asks for. Items and members are
asked for something only where there are any. -/
def AdmitsByAll : List (Text × Json) → Json → Prop
  | [], _ => True
  | (name, value) :: keywords, j =>
    (match Keyword.ofName? name with
      | some .type => HasTypeAmong value j
      | some .enum => IsAmong value j
      | some .items => ∀ items, j = array items → ∀ item ∈ items, Admits value item
      | some .properties => ∀ members, j = object members → AdmitsMembers value members
      | some .required => HasMembers value j
      | none => True) ∧ AdmitsByAll keywords j

/-- What the value of the keyword for properties asks for: that members, as far as they are there,
are admitted by the schemas of their names. -/
def AdmitsMembers : Json → List (Text × Json) → Prop
  | object properties, members => AdmitsEach properties members
  | _, _ => True

def AdmitsEach : List (Text × Json) → List (Text × Json) → Prop
  | [], _ => True
  | (name, schema) :: properties, members =>
    (∀ j, member? name members = some j → Admits schema j) ∧ AdmitsEach properties members

end

end Json

namespace Schema

open Json (AdmitsByAll AdmitsEach)

section Keywords

variable {j value : Json} {name : Text} {rest : List (Text × Json)}

theorem admitsByAll_type {typeName : String} {type : TypeName}
    (h : TypeName.ofName? (lit typeName) = some type) :
    AdmitsByAll (typeMember typeName :: rest) j ↔ j.HasType type ∧ AdmitsByAll rest j := by
  have hnamed : j.HasTypeNamed (lit typeName) ↔ j.HasType type := by
    simp [Json.HasTypeNamed, h]
  have hkeyword : Keyword.ofName? (lit "type") = some .type := rfl
  rw [typeMember, AdmitsByAll, hkeyword, ← hnamed]
  rfl

theorem admitsByAll_enum {options : List Json} :
    AdmitsByAll ((lit "enum", .array options) :: rest) j ↔ j ∈ options ∧ AdmitsByAll rest j := by
  have hkeyword : Keyword.ofName? (lit "enum") = some .enum := rfl
  rw [AdmitsByAll, hkeyword]
  simp [Json.IsAmong]

theorem admitsByAll_items :
    AdmitsByAll ((lit "items", value) :: rest) j ↔
      (∀ items, j = .array items → ∀ item ∈ items, value.Admits item) ∧ AdmitsByAll rest j := by
  have hkeyword : Keyword.ofName? (lit "items") = some .items := rfl
  rw [AdmitsByAll, hkeyword]

theorem admitsByAll_properties {properties : List (Text × Json)} :
    AdmitsByAll ((lit "properties", .object properties) :: rest) j ↔
      (∀ members, j = .object members → AdmitsEach properties members) ∧
        AdmitsByAll rest j := by
  have hkeyword : Keyword.ofName? (lit "properties") = some .properties := rfl
  rw [AdmitsByAll, hkeyword]
  simp only [Json.AdmitsMembers]

theorem admitsByAll_required {names : List Text} :
    AdmitsByAll ((lit "required", .array (names.map .text)) :: rest) j ↔
      (∀ members, j = .object members →
        ∀ name ∈ names, ∃ found, member? name members = some found) ∧ AdmitsByAll rest j := by
  have hkeyword : Keyword.ofName? (lit "required") = some .required := rfl
  have hnames : Json.HasMembers (.array (names.map .text)) j ↔ ∀ members, j = .object members →
      ∀ name ∈ names, ∃ found, member? name members = some found := by
    simp [Json.HasMembers]
  rw [AdmitsByAll, hkeyword, ← hnames]

theorem admitsByAll_note (h : Keyword.ofName? name = none) :
    AdmitsByAll ((name, value) :: rest) j ↔ AdmitsByAll rest j := by
  rw [AdmitsByAll, h, true_and]

end Keywords

theorem admitsEach_propertyMembers {properties : List (Text × Schema)}
    {members : List (Text × Json)} :
    AdmitsEach (propertyMembers properties) members ↔
      ∀ property ∈ properties, ∀ j, member? property.1 members = some j →
        property.2.toJson.Admits j := by
  induction properties with
  | nil => simp [propertyMembers, AdmitsEach]
  | cons property properties ih =>
    rw [propertyMembers, AdmitsEach, ih, List.forall_mem_cons]
    rfl

section

variable {j : Json}

theorem admits_iff {schema : Schema} : schema.toJson.Admits j ↔ AdmitsByAll schema.toMembers j := by
  rw [toJson, Json.Admits]

theorem admits_text : text.toJson.Admits j ↔ ∃ t, j = .text t := by
  rw [admits_iff, toMembers, admitsByAll_type rfl]
  cases j <;> simp [Json.HasType, AdmitsByAll]

theorem admits_oneOf {names : List Text} :
    (oneOf names).toJson.Admits j ↔ ∃ name ∈ names, j = .text name := by
  rw [admits_iff, toMembers, admitsByAll_type rfl, admitsByAll_enum]
  cases j <;> simp [Json.HasType, AdmitsByAll]

theorem admits_integer :
    integer.toJson.Admits j ↔ (∃ n, j = .int n) ∨ ∃ x n, j = .float x ∧ x.toInt? = some n := by
  rw [admits_iff, toMembers, admitsByAll_type rfl]
  cases j <;> simp [Json.HasType, AdmitsByAll, Option.isSome_iff_exists]

theorem admits_number : number.toJson.Admits j ↔ (∃ n, j = .int n) ∨ ∃ x, j = .float x := by
  rw [admits_iff, toMembers, admitsByAll_type rfl]
  cases j <;> simp [Json.HasType, AdmitsByAll]

theorem admits_flag {default : Bool} : (flag default).toJson.Admits j ↔ ∃ b, j = .bool b := by
  rw [admits_iff, toMembers, admitsByAll_type rfl, admitsByAll_note rfl]
  cases j <;> simp [Json.HasType, AdmitsByAll]

theorem admits_textOrNumber :
    textOrNumber.toJson.Admits j ↔
      (∃ t, j = .text t) ∨ (∃ n, j = .int n) ∨ ∃ x, j = .float x := by
  have hkeyword : Keyword.ofName? (lit "type") = some .type := rfl
  have hstring : TypeName.ofName? (lit "string") = some .string := rfl
  have hnumber : TypeName.ofName? (lit "number") = some .number := rfl
  rw [admits_iff, toMembers, AdmitsByAll, hkeyword]
  cases j <;> simp [Json.HasTypeAmong, Json.HasTypeNamed, Json.ofString, hstring, hnumber,
    Json.HasType, AdmitsByAll]

theorem admits_array {items : Schema} :
    (array items).toJson.Admits j ↔
      ∃ documents, j = .array documents ∧ ∀ document ∈ documents, items.toJson.Admits document := by
  rw [admits_iff, toMembers, admitsByAll_type rfl, admitsByAll_items]
  cases j <;> simp [Json.HasType, AdmitsByAll, toJson]

theorem admits_object {properties : List (Text × Schema)} {required : List Text} :
    (object properties required).toJson.Admits j ↔
      ∃ members, j = .object members ∧
        (∀ property ∈ properties, ∀ found, member? property.1 members = some found →
          property.2.toJson.Admits found) ∧
        ∀ name ∈ required, ∃ found, member? name members = some found := by
  have hrequired :
      AdmitsByAll (if required.isEmpty then [] else
          [(lit "required", .array (required.map Json.text))]) j ↔
        ∀ members, j = .object members → ∀ name ∈ required,
          ∃ found, member? name members = some found := by
    cases required with
    | nil => simp [AdmitsByAll]
    | cons name names =>
      rw [if_neg (by simp), admitsByAll_required]
      simp [AdmitsByAll]
  rw [admits_iff, toMembers, List.cons_append, List.cons_append, List.nil_append,
    admitsByAll_type rfl, admitsByAll_properties, hrequired]
  cases j <;> simp [Json.HasType, admitsEach_propertyMembers]

theorem admits_members {properties : List (Text × Schema)} {required : List Text}
    {members : List (Text × Json)} :
    (object properties required).toJson.Admits (.object members) ↔
      (∀ property ∈ properties, ∀ found, member? property.1 members = some found →
        property.2.toJson.Admits found) ∧
      ∀ name ∈ required, ∃ found, member? name members = some found := by
  rw [admits_object]
  simp only [Json.object.injEq, exists_eq_left']

/-- A member that is required is there, and admitted by its schema. -/
theorem exists_member (name : Text) (schema : Schema) {properties : List (Text × Schema)}
    {required : List Text} {members : List (Text × Json)}
    (h : (object properties required).toJson.Admits (.object members))
    (hproperty : (name, schema) ∈ properties) (hrequired : name ∈ required) :
    ∃ found, member? name members = some found ∧ schema.toJson.Admits found := by
  obtain ⟨hproperties, hall⟩ := admits_members.mp h
  obtain ⟨found, hfound⟩ := hall name hrequired
  exact ⟨found, hfound, hproperties _ hproperty found hfound⟩

theorem admits_described {note : Text} {schema : Schema} :
    (described note schema).toJson.Admits j ↔ schema.toJson.Admits j := by
  rw [admits_iff, toMembers, admitsByAll_note rfl, admits_iff]

end

mutual

/-- A schema finds nothing wrong with a document exactly when it admits it as published. -/
theorem violations_eq_nil_iff (depth : Nat) (j : Json) :
    (schema : Schema) → (violations depth j schema = [] ↔ schema.toJson.Admits j)
  | text => by
    rw [admits_text]
    cases j <;> simp [violations, isText, wrongType]
  | oneOf names => by
    rw [admits_oneOf]
    cases j <;> simp [violations, isText, wrongType]
  | integer => by
    rw [admits_integer]
    cases j with
    | float x => cases hwhole : x.toInt? <;> simp [violations, isInteger, wrongType, hwhole]
    | null | bool | int | text | array | object => simp [violations, isInteger, wrongType]
  | number => by
    rw [admits_number]
    cases j <;> simp [violations, isNumber, wrongType]
  | flag default => by
    rw [admits_flag]
    cases j <;> simp [violations, wrongType]
  | textOrNumber => by
    rw [admits_textOrNumber]
    cases j <;> simp [violations, isText, isNumber, wrongType]
  | array items => by
    rw [admits_array]
    cases j with
    | array documents =>
      simp [violations, violations_eq_nil_iff (depth + 1) _ items]
    | null | bool | int | float | text | object => simp [violations, wrongType]
  | object properties required => by
    rw [admits_object]
    cases j with
    | object members =>
      simp [violations, propertyViolations_eq_nil_iff (depth + 1) members properties,
        missingMembers, Option.ne_none_iff_exists']
    | null | bool | int | float | text | array => simp [violations, wrongType]
  | described note schema => by
    rw [admits_described, violations]
    exact violations_eq_nil_iff depth j schema

theorem propertyViolations_eq_nil_iff (depth : Nat) (members : List (Text × Json)) :
    (properties : List (Text × Schema)) → (propertyViolations depth members properties = [] ↔
      ∀ property ∈ properties, ∀ j, member? property.1 members = some j →
        property.2.toJson.Admits j)
  | [] => by simp [propertyViolations]
  | (name, schema) :: properties => by
    rw [propertyViolations, List.append_eq_nil_iff, List.forall_mem_cons,
      propertyViolations_eq_nil_iff depth members properties]
    cases hmember : member? name members with
    | none => simp
    | some j => simp [violations_eq_nil_iff depth j schema]

end

/-- The published document admits exactly what the check of the schema accepts. -/
theorem admits_iff_accepts {schema : Schema} {j : Json} :
    schema.toJson.Admits j ↔ schema.accepts j = true := by
  rw [accepts, List.isEmpty_iff, violations_eq_nil_iff]

end Schema

end Formwright
