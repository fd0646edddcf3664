import Formwright.Record.Basic

/-!
What goes by a name of a record: its attributes, and what every record of its
class has besides them. Component records can be made into one file and exported;
an attribute that took the name of such an operation stands in its way.
-/

namespace Formwright

namespace Record

/-- Each block must be a text when the blocks are joined. -/
def joinBlocks (index : Nat) : List Value → Except Fault (List Text)
  | [] => .ok []
  | .text t :: rest => do return t :: (← joinBlocks (index + 1) rest)
  | v :: _ => .error (.blockNotText index v.fullTypeName)

def singleFileName : Text := lit "to_sfc"
def exportsName : Text := lit "to_dict"

/-- The operations that every record has. -/
def commonOperations : List Text :=
  [lit "model_copy", lit "model_dump", lit "model_dump_json", lit "model_validate", lit "copy",
    lit "dict", lit "json"]

/-- The names of the operations that a record has. -/
def operations (r : Record) : List Text :=
  (if RecordClass.component.includes r.cls then [singleFileName, exportsName] else []) ++ commonOperations

/-- How records of every class are set up: none may be changed. -/
def configuration : List (Text × Value) :=
  [(lit "frozen", .bool true)]

/-- What goes by a name of a record. -/
inductive Feature where
  | value (v : Value)
  | operation
  /-- The names of the fields that were given a value. -/
  | givenFields
  /-- The declarations of the fields. -/
  | declarations (fields : List Text)

/-- What goes by that name. Attributes come first. -/
def feature? (r : Record) (name : Text) : Option Feature :=
  match member? name r.attributes with
  | some v => some (.value v)
  | none =>
    if r.operations.contains name then some .operation
    else member? name
      [(lit "model_config", .value (.object configuration)), (lit "model_extra", .value .null),
        (lit "model_fields_set", .givenFields), (lit "model_fields", .declarations r.cls.fields)]

/-- Whether a record has an operation of that name; an attribute of the same name hides it. -/
def requireOperation (r : Record) (name : Text) : Except Fault Unit :=
  match r.feature? name with
  | some .operation => .ok ()
  | some (.value v) => .error (.notCallable v.fullTypeName)
  | _ => .error (.noAttribute r.cls.name name)

/-- A component record as one file. -/
def singleFile (r : Record) : Except Fault Text := do
  r.requireOperation singleFileName
  let s := r.toSubject
  let template ← s.get "template"
  let script ← s.get "script"
  let style ← s.get "style"
  let blocks ← joinBlocks 0 ([template, script] ++ if style.isTrue then [style] else [])
  return Component.joinBlocks blocks

/-- The blocks of a component record and the file they make. -/
def exports (r : Record) : Except Fault (List (Text × Value)) := do
  r.requireOperation exportsName
  return r.fields ++ [(lit "sfc", .text (← r.singleFile))]

end Record

end Formwright
