import Formwright.Reading.Scalar
import Formwright.Record.Basic

/-!
Reading descriptors. The type of a descriptor decides which kind judges it, and
that kind judges only the fields it declares. A record that already is of the
class its type asks for passes through as it is; any other record is read again
from its fields.
-/

namespace Formwright

/-- The members of a mapping as a reader sees them, with the mapping itself for reports. -/
structure Mapping where
  members : List (Text × Value)

namespace Mapping

def toValue (m : Mapping) : Value :=
  .object m.members

/-- A member that must be there. -/
def require {α : Type} (m : Mapping) (name : String) (read : Value → Reading α) : Reading α :=
  (match member? (lit name) m.members with
    | some v => read v
    | none => Reading.refuse .missing m.toValue).within (.key (lit name))

/-- A member that may be left out. -/
def getD {α : Type} (m : Mapping) (name : String) (default : α) (read : Value → Reading α) :
    Reading α :=
  match member? (lit name) m.members with
  | some v => (read v).within (.key (lit name))
  | none => .ok default

end Mapping

/-- Reads a value with a reader that names a single cause. -/
def Value.by {α : Type} (read : Value → Except Cause α) (v : Value) : Reading α :=
  Reading.ofCause v (read v)

/-- The type name must be that of the kind; left out it is taken to be. -/
def Kind.readName (kind : Kind) (v : Value) : Except Cause Text :=
  match v with
  | .text t =>
    if t = kind.name then .ok t
    else if t.all CodePoint.isScalar then .error (.otherLiteral kind.name)
    else .error .notUnicode
  | _ => .error (.otherLiteral kind.name)

namespace Mapping

/-- The type name and the fields that every item has. With a kind the type must be its name,
without one any text will do. -/
def readAttributes (kind : Option Kind) (m : Mapping) : Reading (Text × Attributes) :=
  let type : Reading Text :=
    match kind with
    | some kind => m.getD "type" kind.name (Value.by kind.readName)
    | none => m.require "type" (Value.by Value.readText)
  let read :=
    (m.require "id" (Value.by Value.readInteger)).both <| type.both <|
    (m.require "label" (Value.by Value.readText)).both <|
    (m.require "field" (Value.by Value.readText)).both <|
    (m.getD "placeholder" none (Value.by Value.readOptionalText)).both <|
    (m.getD "required" false (Value.by Value.readFlag)).both
      (m.getD "disabled" false (Value.by Value.readFlag))
  read.map fun (id, type, label, field, placeholder, required, disabled) =>
    (type, { id, label, field, placeholder, required, disabled })

def readChoice (m : Mapping) : Reading Choice :=
  ((m.require "label" (Value.by Value.readText)).both (m.require "value" Value.readScalar)).map
    fun (caption, value) => ⟨caption, value⟩

def readComponent (m : Mapping) : Reading Component :=
  let read :=
    (m.require "template" (Value.by Value.readText)).both <|
    (m.require "script" (Value.by Value.readText)).both
      (m.getD "style" [] (Value.by Value.readText))
  read.map fun (template, script, style) => ⟨template, script, style⟩

end Mapping

namespace Value

/-- A choice from a mapping, or from a record that is one. Of a record under a derived class only
the plain choice in it is kept. -/
def readChoice : Value → Reading Choice
  | object members => Mapping.readChoice ⟨members⟩
  | model m =>
    match m.choice? with
    | some c => .ok c
    | none => Reading.refuse (.notRecord RecordClass.choice.name) (.model m)
  | v => Reading.refuse (.notRecord RecordClass.choice.name) v

def readChoicesFrom : (index : Nat) → List Value → List (Reading Choice)
  | _, [] => []
  | index, v :: rest => v.readChoice.within (.index index) :: readChoicesFrom (index + 1) rest

/-- The choices of an item, each with the issues of its own place. -/
def readChoices : Value → Reading (List Choice)
  | list items => Reading.all (readChoicesFrom 0 items)
  | tuple items => Reading.all (readChoicesFrom 0 items)
  | v => Reading.refuse .notList v

end Value

namespace Mapping

def readOptions (m : Mapping) : Reading (List Choice) :=
  m.getD "options" [] Value.readChoices

/-- The fields that only the kind declares. -/
def readControl (kind : Kind) (m : Mapping) : Reading Control :=
  match kind with
  | .input => .ok .input
  | .textarea => .ok .textarea
  | .number =>
    ((m.getD "min" none Value.readBound).both (m.getD "max" none Value.readBound)).map
      fun (minimum, maximum) => .number minimum maximum
  | .select => m.readOptions.map .select
  | .radio => m.readOptions.map .radio
  | .checkbox => m.readOptions.map .checkbox
  | .date => .ok .date
  | .switch => .ok .switch

/-- The item that a mapping describes, judged as an item of the kind, or of no known kind. -/
def readItem (kind : Option Kind) (m : Mapping) : Reading Item :=
  match kind with
  | some kind =>
    ((m.readAttributes (some kind)).both (m.readControl kind)).map
      fun ((_, attributes), control) => { attributes with control }
  | none =>
    (m.readAttributes none).map
      fun (type, attributes) => { attributes with control := .unknown type }

/-- A record of the given class from its fields; those that a derived class adds are not read. -/
def readModel (m : Mapping) : RecordClass → Reading Model
  | .choice => m.readChoice.map .choice
  | .base => (m.readAttributes none).map fun (type, attributes) => .base type attributes
  | .optioned =>
    ((m.readAttributes none).both m.readOptions).map
      fun ((type, attributes), options) => .optioned type attributes options
  | .variant kind => (m.readItem (some kind)).map .item
  | .unknown => (m.readItem none).map .item
  | .component => m.readComponent.map .component
  | .derived name parent _ => (m.readModel parent).map (.derived name)

end Mapping

/-- A record of a class built from a value: a mapping of its fields, or a record that already
is one of the class. -/
def Model.build (cls : RecordClass) (v : Value) : Except Rejection Model :=
  let reading := match v with
    | .object members => Mapping.readModel ⟨members⟩ cls
    | .model m =>
      if cls.includes m.recordClass then .ok m
      else Reading.refuse (.notRecord cls.name) v
    | v => Reading.refuse (.notRecord cls.name) v
  reading.mapError fun issues => ⟨cls.name, issues⟩

/-- A descriptor to be read: a value, or a record that goes by its own identity. -/
inductive Source where
  | value (v : Value)
  | record (r : Record)

/-- A descriptor that was read. -/
inductive Parsed where
  /-- An item read from a mapping. -/
  | fresh (item : Item)
  /-- A record that passed through unchanged. -/
  | kept (record : Record)

/-- The kind that the type of a descriptor names, if it names one. -/
def Value.kind? (v : Value) : Option Kind :=
  let type := match v with
    | .object members => member? (lit "type") members
    | v => v.attribute? (lit "type")
  match type with
  | some (.text name) => Kind.ofName? name
  | _ => none

/-- The step that names how an item was judged. -/
def kindStep (kind : Option Kind) : Step :=
  .key (match kind with
    | some kind => kind.name
    | none => lit "unknown")

/-- The item that a value other than a record describes. -/
def Value.readItem (v : Value) : Reading Item :=
  let kind := v.kind?
  (match v with
    | .object members => Mapping.readItem kind ⟨members⟩
    | v => Reading.refuse (.notRecord (RecordClass.ofKind? kind).name) v).within (kindStep kind)

/-- A record of the class that its type asks for is kept; another is read from its fields. -/
def Record.read (r : Record) : Reading Parsed :=
  if (RecordClass.ofKind? r.kind?).includes r.cls then .ok (.kept r)
  else r.dump.readItem.map .fresh

def Source.read : Source → Reading Parsed
  | value (.model m) => (Record.ofModel m).read
  | value v => v.readItem.map .fresh
  | record r => r.read

def readSourcesFrom : (index : Nat) → List Source → List (Reading Parsed)
  | _, [] => []
  | index, s :: rest => s.read.within (.index index) :: readSourcesFrom (index + 1) rest

/-- What a list of descriptors is called in reports. -/
def descriptorListTitle : Text :=
  lit "list[tagged-union[" ++
    Text.joinWith (lit ",") (Kind.all.map Kind.className ++ [RecordClass.unknown.name]) ++ lit "]]"

/-- The descriptors in order, or every issue of every one of them. -/
def readSources (sources : List Source) : Except Rejection (List Parsed) :=
  (Reading.all (readSourcesFrom 0 sources)).mapError fun issues => ⟨descriptorListTitle, issues⟩

/-- The descriptors among the values in order. -/
def readDescriptors (values : List Value) : Except Rejection (List Parsed) :=
  readSources (values.map .value)

end Formwright
