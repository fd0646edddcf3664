import Formwright.Fault
import Formwright.Field.Kind

/-!
Items: validated descriptors of one form field each. What depends on the kind
sits in the item's control; an item of an unknown kind keeps its type name.
-/

namespace Formwright

inductive Number where
  | whole (n : Int)
  | real (x : Double)
  deriving DecidableEq

/-- The value that a choice stands for. -/
inductive Scalar where
  | text (t : Text)
  | number (n : Number)
  deriving DecidableEq

/-- A choice of an item. Its class is not told: in an item, one that was built under a derived
class counts as a plain choice. -/
structure Choice where
  caption : Text
  value : Scalar
  deriving DecidableEq

inductive Control where
  | input
  | textarea
  | number (minimum maximum : Option Number)
  | select (options : List Choice)
  | radio (options : List Choice)
  | checkbox (options : List Choice)
  | date
  | switch
  | unknown (typeName : Text)
  deriving DecidableEq

/-- What every descriptor has, whatever its kind. -/
structure Attributes where
  id : Int
  label : Text
  /-- The key of the field in the generated data object, used as it stands. -/
  field : Text
  placeholder : Option Text
  required : Bool
  disabled : Bool
  deriving DecidableEq

structure Item extends Attributes where
  control : Control
  deriving DecidableEq

namespace Control

def typeName : Control → Text
  | input => Kind.input.name
  | textarea => Kind.textarea.name
  | number _ _ => Kind.number.name
  | select _ => Kind.select.name
  | radio _ => Kind.radio.name
  | checkbox _ => Kind.checkbox.name
  | date => Kind.date.name
  | switch => Kind.switch.name
  | unknown typeName => typeName

/-- The name of the class of items with this control. -/
def className : Control → Text
  | input => Kind.input.className
  | textarea => Kind.textarea.className
  | number _ _ => Kind.number.className
  | select _ => Kind.select.className
  | radio _ => Kind.radio.className
  | checkbox _ => Kind.checkbox.className
  | date => Kind.date.className
  | switch => Kind.switch.className
  | unknown _ => lit "UnknownFormItem"

/-- The choices of a control that has a list of them. -/
def options? : Control → Option (List Choice)
  | select options | radio options | checkbox options => some options
  | _ => none

/-- The bounds of a control that has them. -/
def bounds? : Control → Option (Option Number × Option Number)
  | number minimum maximum => some (minimum, maximum)
  | _ => none

end Control

namespace Item

def typeName (item : Item) : Text :=
  item.control.typeName

/-- The kind that the type name names. An unknown control may carry the name of a known kind;
then the item is written as that kind would be. -/
def kind? (item : Item) : Option Kind :=
  Kind.ofName? item.typeName

def className (item : Item) : Text :=
  item.control.className

end Item

/-- A flag as a script literal. -/
def writeFlag (b : Bool) : Text :=
  if b then lit "true" else lit "false"

/-- A real number in markup: in full when it is integral, otherwise its usual text. -/
def Double.inMarkup (x : Double) : Text :=
  match x.toInt? with
  | some n => Text.ofInt n
  | none => x.written

namespace Number

/-- A number in markup. -/
def inMarkup : Number → Except Fault Text
  | whole n => writeInt n
  | real x => .ok x.inMarkup

end Number

/-- The value of a choice in markup. -/
def Scalar.inMarkup : Scalar → Except Fault Text
  | text t => .ok t
  | number n => n.inMarkup

end Formwright
