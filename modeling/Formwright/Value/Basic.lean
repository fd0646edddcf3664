import Formwright.Component.Basic
import Formwright.Json.Basic

/-!
What a caller may hand over as a descriptor or in place of any of its fields:
the values of JSON documents, and besides them byte sequences, tuples, objects
with attributes of their own, and records that were built before.
-/

namespace Formwright

/-- The classes of records: those of the library and those that a caller derives from them. A
derived class has a name of its own and may declare more fields. It may also declare a field of
its parent again, with a rule of its own; that shows only in what its records hold there. -/
inductive RecordClass where
  | choice
  | base
  | optioned
  | variant (kind : Kind)
  | unknown
  | component
  | derived (name : Text) (parent : RecordClass) (added : List Text)
  deriving DecidableEq

namespace RecordClass

/-- A class derived from the input variant that adds nothing to it. -/
def labelledInput : RecordClass :=
  derived (lit "LabelledInput") (variant .input) []

def name : RecordClass → Text
  | choice => lit "FieldOption"
  | base => lit "BaseFormItem"
  | optioned => lit "OptionFormItem"
  | variant kind => kind.className
  | unknown => lit "UnknownFormItem"
  | component => lit "GeneratedComponent"
  | derived name _ _ => name

def all : List RecordClass :=
  [choice, base, optioned, labelledInput, unknown, component] ++ Kind.all.map variant

def ofName? (name : Text) : Option RecordClass :=
  all.find? fun c => c.name = name

/-- Whether every record of the second class counts as one of the first. -/
def includes (c : RecordClass) : RecordClass → Bool
  | derived name parent added => c = derived name parent added || c.includes parent
  | choice => c = choice
  | component => c = component
  | base => c = base
  | unknown => c = unknown || c = base
  | optioned => c = optioned || c = base
  | variant kind => c = variant kind || c = base || (c = optioned && kind.hasOptions)

/-- The class that items of a kind, or of no known kind, are read into. -/
def ofKind? : Option Kind → RecordClass
  | some kind => variant kind
  | none => unknown

def baseFields : List Text :=
  [lit "id", lit "type", lit "label", lit "field", lit "placeholder", lit "required",
    lit "disabled"]

/-- The declared fields in order. -/
def fields : RecordClass → List Text
  | choice => [lit "label", lit "value"]
  | component => [lit "template", lit "script", lit "style"]
  | base | unknown => baseFields
  | optioned => baseFields ++ [lit "options"]
  | variant kind =>
    if kind.hasOptions then baseFields ++ [lit "options"]
    else if kind = .number then baseFields ++ [lit "min", lit "max"]
    else baseFields
  | derived _ parent added => parent.fields ++ added

theorem options_mem_fields {kind : Kind} (h : kind.hasOptions) :
    lit "options" ∈ (variant kind).fields := by
  simp [fields, h]

theorem bounds_mem_fields :
    lit "min" ∈ (variant .number).fields ∧ lit "max" ∈ (variant .number).fields := by
  decide

end RecordClass

/-- A record whose fields are known to be valid. -/
inductive Model where
  | choice (c : Choice)
  | base (typeName : Text) (attributes : Attributes)
  | optioned (typeName : Text) (attributes : Attributes) (options : List Choice)
  | item (i : Item)
  | component (c : Component)
  /-- A record of a derived class that adds no field. -/
  | derived (name : Text) (m : Model)
  deriving DecidableEq

/-- The record of the class `LabelledInput` with those attributes. -/
def Model.labelledInput (attributes : Attributes) : Model :=
  derived (lit "LabelledInput") (item { attributes with control := .input })

inductive Value where
  | null
  | bool (b : Bool)
  | int (n : Int)
  | float (x : Double)
  | text (t : Text)
  | bytes (content : List UInt8)
  | list (items : List Value)
  | tuple (items : List Value)
  | object (members : List (Text × Value))
  /-- Something with attributes that is neither a mapping nor a record. -/
  | bag (attributes : List (Text × Value))
  | model (m : Model)
  deriving Inhabited

mutual

/-- The value that a JSON document stands for. -/
def Value.ofJson : Json → Value
  | .null => .null
  | .bool b => .bool b
  | .int n => .int n
  | .float x => .float x
  | .text t => .text t
  | .array items => .list (valuesOfJson items)
  | .object members => .object (membersOfJson members)

def valuesOfJson : List Json → List Value
  | [] => []
  | item :: items => Value.ofJson item :: valuesOfJson items

def membersOfJson : List (Text × Json) → List (Text × Value)
  | [] => []
  | (name, value) :: members => (name, Value.ofJson value) :: membersOfJson members

end

def Number.toValue : Number → Value
  | whole n => .int n
  | real x => .float x

def Scalar.toValue : Scalar → Value
  | text t => .text t
  | number n => n.toValue

def boundValue (bound : Option Number) : Value :=
  (bound.map Number.toValue).getD .null

namespace Attributes

/-- The fields that every item has, in their declared order. -/
def toFields (attributes : Attributes) (typeName : Text) : List (Text × Value) :=
  [(lit "id", .int attributes.id), (lit "type", .text typeName),
    (lit "label", .text attributes.label), (lit "field", .text attributes.field),
    (lit "placeholder", (attributes.placeholder.map Value.text).getD .null),
    (lit "required", .bool attributes.required), (lit "disabled", .bool attributes.disabled)]

end Attributes

namespace Choice

def toFields (c : Choice) : List (Text × Value) :=
  [(lit "label", .text c.caption), (lit "value", c.value.toValue)]

end Choice

namespace Control

/-- The fields that only some kinds have; `choice` says how a choice is held. -/
def toFields (choice : Choice → Value) : Control → List (Text × Value)
  | number minimum maximum =>
    [(lit "min", boundValue minimum), (lit "max", boundValue maximum)]
  | select options | radio options | checkbox options =>
    [(lit "options", .list (options.map choice))]
  | _ => []

end Control

namespace Component

def toFields (c : Component) : List (Text × Value) :=
  [(lit "template", .text c.template), (lit "script", .text c.script),
    (lit "style", .text c.style)]

end Component

namespace Control

/-- The class of items with this control. -/
def recordClass : Control → RecordClass
  | input => .variant .input
  | textarea => .variant .textarea
  | number _ _ => .variant .number
  | select _ => .variant .select
  | radio _ => .variant .radio
  | checkbox _ => .variant .checkbox
  | date => .variant .date
  | switch => .variant .switch
  | unknown _ => .unknown

end Control

namespace Model

def recordClass : Model → RecordClass
  | choice _ => .choice
  | base _ _ => .base
  | optioned _ _ _ => .optioned
  | item i => i.control.recordClass
  | component _ => .component
  | derived name m => .derived name m.recordClass []

/-- The choice that a record is, of its own class or a derived one. -/
def choice? : Model → Option Choice
  | .choice c => some c
  | derived _ m => m.choice?
  | _ => none

/-- The fields in their declared order; `choice` says how a choice in a list is held. -/
def fieldsWith (choice : Choice → Value) : Model → List (Text × Value)
  | .choice c => c.toFields
  | base typeName attributes => attributes.toFields typeName
  | optioned typeName attributes options =>
    attributes.toFields typeName ++ [(lit "options", .list (options.map choice))]
  | item i => i.toAttributes.toFields i.typeName ++ i.control.toFields choice
  | component c => c.toFields
  | derived _ m => m.fieldsWith choice

/-- The fields as attributes: choices stay records. -/
def toFields (m : Model) : List (Text × Value) :=
  m.fieldsWith fun c => .model (.choice c)

/-- The record as a mapping, with its choices as mappings too. -/
def dump (m : Model) : Value :=
  .object (m.fieldsWith fun c => .object c.toFields)

end Model

namespace Value

/-- The short name of a value's type in messages. -/
def typeName : Value → Text
  | null => lit "NoneType"
  | bool _ => lit "bool"
  | int _ => lit "int"
  | float _ => lit "float"
  | text _ => lit "str"
  | bytes _ => lit "bytes"
  | list _ => lit "list"
  | tuple _ => lit "tuple"
  | object _ => lit "dict"
  | bag _ => lit "SimpleNamespace"
  | model m => m.recordClass.name

/-- The name of a value's type where an operation is refused. -/
def fullTypeName : Value → Text
  | bag _ => lit "types.SimpleNamespace"
  | v => v.typeName

/-- Whether a value counts as true. -/
def isTrue : Value → Bool
  | null => false
  | bool b => b
  | int n => n != 0
  | float x => !x.isZero
  | text t => !t.isEmpty
  | bytes content => !content.isEmpty
  | list items => !items.isEmpty
  | tuple items => !items.isEmpty
  | object members => !members.isEmpty
  | bag _ => true
  | model _ => true

/-- The attribute of that name. -/
def attribute? (name : Text) : Value → Option Value
  | bag attributes => member? name attributes
  | model m => member? name m.toFields
  | _ => none

/-- The values that come out when a value is gone through in order. -/
def elements : Value → Except Fault (List Value)
  | list items => .ok items
  | tuple items => .ok items
  | text t => .ok (t.map fun c => .text [c])
  | bytes content => .ok (content.map fun b => .int b.toNat)
  | object members => .ok (members.map fun (name, _) => .text name)
  | model m => .ok (m.toFields.map fun (name, value) => .tuple [.text name, value])
  | v => .error (.notIterable v.fullTypeName)

mutual

/-- A value with every record in it as a mapping. -/
def dump : Value → Value
  | list items => .list (dumpItems items)
  | tuple items => .tuple (dumpItems items)
  | object members => .object (dumpMembers members)
  | model m => m.dump
  | v => v

def dumpItems : List Value → List Value
  | [] => []
  | item :: items => dump item :: dumpItems items

def dumpMembers : List (Text × Value) → List (Text × Value)
  | [] => []
  | (name, value) :: members => (name, dump value) :: dumpMembers members

end

/-- The fields of a choice among some attributes, as far as they are there. -/
def choiceMembers (attributes : List (Text × Value)) : List (Text × Value) :=
  RecordClass.choice.fields.filterMap fun name =>
    (member? name attributes).map fun value => (name, value.dump)

/-- What stands in a list of choices as a mapping. Whatever has attributes is taken for a
choice. -/
def dumpChoice : Value → Value
  | bag attributes => .object (choiceMembers attributes)
  | model m => .object (choiceMembers m.toFields)
  | v => v.dump

/-- A list of choices with each of them as a mapping. -/
def dumpChoices : Value → Value
  | list items => .list (items.map dumpChoice)
  | v => v.dump

mutual

/-- The type that keeps a value from being looked up in a table, if one does. -/
def unhashableType? : Value → Option Text
  | list _ => some (lit "list")
  | object _ => some (lit "dict")
  | bag _ => some (lit "types.SimpleNamespace")
  | tuple items => firstUnhashable? items
  | model m =>
    if m.recordClass.fields.contains (lit "options") then some (lit "list") else none
  | _ => none

def firstUnhashable? : List Value → Option Text
  | [] => none
  | item :: items => (unhashableType? item).or (firstUnhashable? items)

end

end Value

end Formwright
