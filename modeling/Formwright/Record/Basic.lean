import Formwright.Value.Display
import Formwright.Value.Sameness

/-!
Records as they are handled by name: a class and attributes in order. A record
is built valid, but a copy may have any of its attributes replaced unchecked,
and attributes that its class does not declare added.
-/

namespace Formwright

structure Record where
  cls : RecordClass
  attributes : List (Text × Value)

/-- Something whose attributes are read one by one, under the name of its type. -/
structure Subject where
  typeName : Text
  attribute? : Text → Option Value

namespace Record

def ofModel (m : Model) : Record :=
  ⟨m.recordClass, m.toFields⟩

def toSubject (r : Record) : Subject :=
  ⟨r.cls.name, fun name => member? name r.attributes⟩

/-- The declared fields in order, as far as they are there. -/
def fields (r : Record) : List (Text × Value) :=
  r.cls.fields.filterMap fun name => (member? name r.attributes).map (name, ·)

/-- The value of a field with every record in it as a mapping. -/
def dumpField (name : Text) (value : Value) : Value :=
  if name = lit "options" then value.dumpChoices else value.dump

/-- The declared fields as a mapping. -/
def dump (r : Record) : Value :=
  .object (r.fields.map fun (name, value) => (name, dumpField name value))

/-- A copy with some attributes replaced or added; nothing is checked. -/
def copy (r : Record) (update : List (Text × Value)) : Record :=
  { r with attributes := update.foldl (fun as (name, value) => putMember name value as) r.attributes }

/-- Two records are the same when their classes and their declared fields are. The attributes
that `isShared` holds of came to both records from one place. -/
def sameAs (isShared : Text → Bool) (r s : Record) : Bool :=
  decide (r.cls = s.cls) && r.cls.fields.all fun name =>
    sameOptional (Value.sameAs (isShared name)) (member? name r.attributes)
      (member? name s.attributes)

/-- The kind that a record's type names, if it names one. -/
def kind? (r : Record) : Option Kind :=
  match member? (lit "type") r.attributes with
  | some (.text name) => Kind.ofName? name
  | _ => none

end Record

namespace Subject

def ofValue (v : Value) : Subject :=
  ⟨v.fullTypeName, fun name => v.attribute? name⟩

def get (s : Subject) (name : String) : Except Fault Value :=
  match s.attribute? (lit name) with
  | some v => .ok v
  | none => .error (.noAttribute s.typeName (lit name))

end Subject

end Formwright
