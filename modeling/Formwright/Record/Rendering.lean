import Formwright.Record.Basic

/-!
Writing whatever has the attributes of an item. Attributes are asked for in the
order in which the written form needs them, so the first one that is missing or
unfit decides what is reported. For items the outcome is that of writing the
item itself.
-/

namespace Formwright

namespace Value

/-- The fault of using an operation that a value lacks. An attribute of that name is none. -/
def missingOperation (name : Text) (v : Value) : Fault :=
  match v.attribute? name with
  | some found => .notCallable found.fullTypeName
  | none => .noAttribute v.fullTypeName name

/-- Escaping takes texts only. -/
def escaped : Value → Except Fault Text
  | text t => .ok t.escape
  | bytes _ => .error .bytesNotText
  | v => .error (v.missingOperation (lit "replace"))

/-- The kind that a value names when it is looked up among the kinds. -/
def lookUpKind (v : Value) : Except Fault (Option Kind) :=
  match v with
  | text name => .ok (Kind.ofName? name)
  | v =>
    match v.unhashableType? with
    | some typeName => .error (.unhashable typeName)
    | none => .ok none

end Value

namespace Subject

def shape (s : Subject) : Except Fault DataShape := do
  return DataShape.ofKind? (← (← s.get "type").lookUpKind)

def trigger (s : Subject) : Except Fault Text := do
  match ← s.get "type" with
  | .text name => return checkEvent (Kind.ofName? name)
  | _ => return checkEvent none

def fieldText (s : Subject) : Except Fault Text := do
  (← s.get "field").display

def placeholderText (s : Subject) (prompt : Text) : Except Fault Text := do
  let placeholder ← s.get "placeholder"
  if placeholder.isTrue then placeholder.escaped
  else return (prompt ++ (← (← s.get "label").display)).escape

def disabledText (s : Subject) : Except Fault Text := do
  (← s.get "disabled").inMarkup

/-- A bound, or the default when it is absent. -/
def boundText (bound : Value) (default : Number) : Except Fault Text :=
  match bound with
  | .null => default.inMarkup
  | bound => bound.inMarkup

/-- A choice as a select shows it: the caption is asked for first. -/
def selectOption (choice : Value) : Except Fault OptionText := do
  let s := ofValue choice
  let caption ← (← s.get "label").escaped
  return ⟨caption, ← (← s.get "value").inMarkup⟩

/-- A choice as a group shows it: the value is asked for first. -/
def groupOption (choice : Value) : Except Fault OptionText := do
  let s := ofValue choice
  let value ← (← s.get "value").inMarkup
  return ⟨← (← s.get "label").escaped, value⟩

def options (s : Subject) (option : Value → Except Fault OptionText) :
    Except Fault (List OptionText) := do
  (← (← s.get "options").elements).mapM option

def group (s : Subject) (style : GroupStyle) : Except Fault (Text × Widget) := do
  let field ← s.fieldText
  let disabled ← s.disabledText
  return (field, .group style disabled (← s.options groupOption))

/-- The field that a control is bound to, and the control. -/
def widget (s : Subject) : Except Fault (Text × Widget) := do
  let type ← s.get "type"
  match ← type.lookUpKind with
  | none => do
    let field ← s.fieldText
    let _ ← type.display
    return (field, .absent)
  | some .input => do
    let field ← s.fieldText
    let placeholder ← s.placeholderText Template.enterPrompt
    return (field, .input placeholder (← s.disabledText))
  | some .textarea => do
    let field ← s.fieldText
    let placeholder ← s.placeholderText Template.enterPrompt
    return (field, .textarea placeholder (← s.disabledText))
  | some .number => do
    let minimum ← s.get "min"
    let maximum ← s.get "max"
    let field ← s.fieldText
    let minimum ← boundText minimum Template.defaultMinimum
    let maximum ← boundText maximum Template.defaultMaximum
    return (field, .number minimum maximum (← s.disabledText))
  | some .select => do
    let field ← s.fieldText
    let placeholder ← s.placeholderText Template.selectPrompt
    let disabled ← s.disabledText
    return (field, .select placeholder disabled (← s.options selectOption))
  | some .radio => s.group .radio
  | some .checkbox => s.group .checkbox
  | some .date => do
    let field ← s.fieldText
    let placeholder ← s.placeholderText Template.selectPrompt
    return (field, .date placeholder (← s.disabledText))
  | some .switch => do
    let field ← s.fieldText
    return (field, .switch (← s.disabledText))

def block (s : Subject) : Except Fault Block := do
  let label ← (← s.get "label").escaped
  let field ← s.fieldText
  let required ← (← s.get "required").inMarkup
  let (_, widget) ← s.widget
  return ⟨label, field, required, widget⟩

def member (s : Subject) : Except Fault Member := do
  let field ← s.fieldText
  return ⟨field, ← s.shape⟩

def isRequired (s : Subject) : Except Fault Bool := do
  return (← s.get "required").isTrue

def rule (s : Subject) : Except Fault Rule := do
  let field ← s.fieldText
  let label ← (← s.get "label").escaped
  return ⟨field, label, ← s.trigger⟩

end Subject

end Formwright
