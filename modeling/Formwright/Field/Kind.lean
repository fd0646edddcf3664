import Formwright.Text.Basic

/-!
The kinds of field and what each decides for the script: the type of its value,
the value it starts with and the event that triggers its rule. A field of no
known kind holds text.
-/

namespace Formwright

inductive Kind where
  | input
  | textarea
  | number
  | select
  | radio
  | checkbox
  | date
  | switch
  deriving DecidableEq, Repr

/-- The type of a field's value in the script and the literal it starts with. -/
structure DataShape where
  type : Text
  initial : Text
  deriving DecidableEq

namespace Kind

def all : List Kind :=
  [input, textarea, number, select, radio, checkbox, date, switch]

def name : Kind → Text
  | input => lit "input"
  | textarea => lit "textarea"
  | number => lit "number"
  | select => lit "select"
  | radio => lit "radio"
  | checkbox => lit "checkbox"
  | date => lit "date"
  | switch => lit "switch"

/-- The kind that a type name names, if it names one. -/
def ofName? (name : Text) : Option Kind :=
  all.find? fun kind => kind.name = name

theorem ofName?_name (kind : Kind) : ofName? kind.name = some kind := by
  cases kind <;> decide

theorem name_of_ofName? {name : Text} {kind : Kind} (h : ofName? name = some kind) :
    kind.name = name := by
  simpa using List.find?_some h

/-- The name of the class of items of a kind. -/
def className : Kind → Text
  | input => lit "InputFormItem"
  | textarea => lit "TextareaFormItem"
  | number => lit "NumberFormItem"
  | select => lit "SelectFormItem"
  | radio => lit "RadioFormItem"
  | checkbox => lit "CheckboxFormItem"
  | date => lit "DateFormItem"
  | switch => lit "SwitchFormItem"

/-- Whether items of the kind carry a list of choices. -/
def hasOptions : Kind → Bool
  | select | radio | checkbox => true
  | _ => false

end Kind

namespace DataShape

def text : DataShape := ⟨lit "string", lit "''"⟩

def ofKind : Kind → DataShape
  | .checkbox => ⟨lit "string[]", lit "[]"⟩
  | .number => ⟨lit "number", lit "0"⟩
  | .switch => ⟨lit "boolean", lit "false"⟩
  | .date => ⟨lit "Date | null", lit "null"⟩
  | .input | .textarea | .select | .radio => text

/-- The shape of a field whose kind may be unknown. -/
def ofKind? : Option Kind → DataShape
  | some kind => ofKind kind
  | none => text

end DataShape

/-- The event on which the rule of a field is checked. -/
def checkEvent (kind : Option Kind) : Text :=
  if kind = some .select then lit "change" else lit "blur"

end Formwright
