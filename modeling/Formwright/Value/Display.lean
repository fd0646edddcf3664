import Formwright.Text.Quoted
import Formwright.Value.Basic

/-!
How values are written in messages. The literal form shows what kind of value it
is; the display form leaves a text as it is and agrees with the literal form on
all else but records, whose fields it lists without the class.
-/

namespace Formwright

namespace Number

def literal : Number → Except Fault Text
  | whole n => writeInt n
  | real x => .ok x.written

end Number

namespace Scalar

def literal : Scalar → Except Fault Text
  | text t => .ok t.quoted
  | number n => n.literal

end Scalar

def writeWord (b : Bool) : Text :=
  if b then lit "True" else lit "False"

def absentWord : Text := lit "None"

/-- Named values as they stand inside a record or an object with attributes. -/
def namedLiterals (separator : Text) (fields : List (Text × Text)) : Text :=
  Text.joinWith separator (fields.map fun (name, written) => name ++ lit "=" ++ written)

namespace Choice

def literal (c : Choice) : Except Fault Text := do
  let value ← c.value.literal
  return lit "FieldOption(" ++
    namedLiterals (lit ", ") [(lit "label", c.caption.quoted), (lit "value", value)] ++ lit ")"

end Choice

def optionsLiteral (options : List Choice) : Except Fault Text := do
  return lit "[" ++ Text.joinWith (lit ", ") (← options.mapM Choice.literal) ++ lit "]"

def boundLiteral (bound : Option Number) : Except Fault Text :=
  match bound with
  | some n => n.literal
  | none => .ok absentWord

namespace Attributes

def literals (attributes : Attributes) (typeName : Text) : Except Fault (List (Text × Text)) := do
  return [(lit "id", ← writeInt attributes.id), (lit "type", typeName.quoted),
    (lit "label", attributes.label.quoted), (lit "field", attributes.field.quoted),
    (lit "placeholder", (attributes.placeholder.map Text.quoted).getD absentWord),
    (lit "required", writeWord attributes.required),
    (lit "disabled", writeWord attributes.disabled)]

end Attributes

namespace Control

def literals : Control → Except Fault (List (Text × Text))
  | number minimum maximum => do
    return [(lit "min", ← boundLiteral minimum), (lit "max", ← boundLiteral maximum)]
  | select options | radio options | checkbox options => do
    return [(lit "options", ← optionsLiteral options)]
  | _ => .ok []

end Control

namespace Model

def literals : Model → Except Fault (List (Text × Text))
  | choice c => do
    return [(lit "label", c.caption.quoted), (lit "value", ← c.value.literal)]
  | base typeName attributes => attributes.literals typeName
  | optioned typeName attributes options => do
    return (← attributes.literals typeName) ++ [(lit "options", ← optionsLiteral options)]
  | item i => do
    return (← i.toAttributes.literals i.typeName) ++ (← i.control.literals)
  | component c => .ok [(lit "template", c.template.quoted), (lit "script", c.script.quoted),
      (lit "style", c.style.quoted)]
  | derived _ m => m.literals

def literal (m : Model) : Except Fault Text := do
  return m.recordClass.name ++ lit "(" ++ namedLiterals (lit ", ") (← m.literals) ++ lit ")"

end Model

namespace Value

mutual

def literal : Value → Except Fault Text
  | null => .ok absentWord
  | bool b => .ok (writeWord b)
  | int n => writeInt n
  | float x => .ok x.written
  | text t => .ok t.quoted
  | bytes content => .ok (Text.quotedBytes content)
  | list items => do
    return lit "[" ++ Text.joinWith (lit ", ") (← literals items) ++ lit "]"
  | tuple items => do
    match ← literals items with
    | [item] => return lit "(" ++ item ++ lit ",)"
    | written => return lit "(" ++ Text.joinWith (lit ", ") written ++ lit ")"
  | object members => do
    let written ← memberLiterals members
    return lit "\x7b" ++ Text.joinWith (lit ", ")
      (written.map fun (name, value) => name.quoted ++ lit ": " ++ value) ++ lit "\x7d"
  | bag attributes => do
    return lit "namespace(" ++ namedLiterals (lit ", ") (← attributeLiterals attributes) ++ lit ")"
  | model m => m.literal

def literals : List Value → Except Fault (List Text)
  | [] => .ok []
  | item :: items => do
    let first ← literal item
    return first :: (← literals items)

def memberLiterals : List (Text × Value) → Except Fault (List (Text × Text))
  | [] => .ok []
  | (name, value) :: members => do
    let first ← literal value
    return (name, first) :: (← memberLiterals members)

/-- Attributes without a name are not shown. -/
def attributeLiterals : List (Text × Value) → Except Fault (List (Text × Text))
  | [] => .ok []
  | (name, value) :: attributes => do
    if name.isEmpty then attributeLiterals attributes
    else
      let first ← literal value
      return (name, first) :: (← attributeLiterals attributes)

end

/-- The display form. -/
def display : Value → Except Fault Text
  | text t => .ok t
  | model m => do return namedLiterals (lit " ") (← m.literals)
  | v => v.literal

/-- A value in markup: flags as script literals, integral numbers in full, all else as it is
displayed. -/
def inMarkup : Value → Except Fault Text
  | bool b => .ok (writeFlag b)
  | float x => .ok x.inMarkup
  | v => v.display

end Value

end Formwright
