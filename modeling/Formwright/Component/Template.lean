import Formwright.Field.Item
import Formwright.Text.Escape

/-!
The markup of a form: a header, one block for each item and a footer with the
submit button. A block is laid out from texts that are already in their written
form, so laying out never fails; finding those texts can.
-/

namespace Formwright

/-- A choice as it stands in markup. -/
structure OptionText where
  caption : Text
  value : Text
  deriving DecidableEq

/-- The two controls that show their choices as a group of buttons. -/
inductive GroupStyle where
  | radio
  | checkbox
  deriving DecidableEq

def GroupStyle.tag : GroupStyle → Text
  | radio => lit "el-radio"
  | checkbox => lit "el-checkbox"

/-- The control of a block, its attribute values in written form. -/
inductive Widget where
  /-- Items of an unknown kind have no control. -/
  | absent
  | input (placeholder disabled : Text)
  | textarea (placeholder disabled : Text)
  | number (minimum maximum disabled : Text)
  | select (placeholder disabled : Text) (options : List OptionText)
  | group (style : GroupStyle) (disabled : Text) (options : List OptionText)
  | date (placeholder disabled : Text)
  | switch (disabled : Text)
  deriving DecidableEq

/-- What the markup shows of one item. -/
structure Block where
  label : Text
  field : Text
  required : Text
  widget : Widget
  deriving DecidableEq

namespace Template

/-- An attribute with its value between double quotes. -/
def attr (name value : Text) : Text :=
  name ++ lit "=\"" ++ value ++ lit "\""

def bindingTo (field : Text) : Text :=
  attr (lit "v-model") (lit "formData." ++ field)

def selectOption (o : OptionText) : Text :=
  lit "        <el-option " ++ attr (lit "label") o.caption ++ lit " " ++
    attr (lit "value") o.value ++ lit "></el-option>"

def groupOption (tag : Text) (o : OptionText) : Text :=
  lit "        <" ++ tag ++ lit " " ++ attr (lit "label") o.value ++ lit ">" ++ o.caption ++
    lit "</" ++ tag ++ lit ">"

/-- The lines of a control that is bound to a field. -/
def widgetLines (field : Text) : Widget → List Text
  | .absent => []
  | .input placeholder disabled =>
    [lit "      <el-input " ++ bindingTo field ++ lit " " ++
      attr (lit "placeholder") placeholder ++ lit " " ++
      attr (lit ":disabled") disabled ++ lit "></el-input>"]
  | .textarea placeholder disabled =>
    [lit "      <el-input type=\"textarea\" " ++ bindingTo field ++ lit " " ++
      attr (lit "placeholder") placeholder ++ lit " " ++
      attr (lit ":disabled") disabled ++ lit "></el-input>"]
  | .number minimum maximum disabled =>
    [lit "      <el-input-number " ++ bindingTo field ++ lit " " ++
      attr (lit ":min") minimum ++ lit " " ++ attr (lit ":max") maximum ++ lit " " ++
      attr (lit ":disabled") disabled ++ lit "></el-input-number>"]
  | .select placeholder disabled options =>
    (lit "      <el-select " ++ bindingTo field ++ lit " " ++
      attr (lit "placeholder") placeholder ++ lit " " ++
      attr (lit ":disabled") disabled ++ lit ">") ::
    options.map selectOption ++ [lit "      </el-select>"]
  | .group style disabled options =>
    (lit "      <" ++ style.tag ++ lit "-group " ++ bindingTo field ++ lit " " ++
      attr (lit ":disabled") disabled ++ lit ">") ::
    options.map (groupOption style.tag) ++ [lit "      </" ++ style.tag ++ lit "-group>"]
  | .date placeholder disabled =>
    [lit "      <el-date-picker",
      lit "        " ++ bindingTo field,
      lit "        type=\"date\"",
      lit "        " ++ attr (lit "placeholder") placeholder,
      lit "        " ++ attr (lit ":disabled") disabled ++ lit ">",
      lit "      </el-date-picker>"]
  | .switch disabled =>
    [lit "      <el-switch " ++ bindingTo field ++ lit " " ++
      attr (lit ":disabled") disabled ++ lit "></el-switch>"]

def blockLines (block : Block) : List Text :=
  [lit "    <el-form-item",
    lit "      " ++ attr (lit "label") block.label,
    lit "      " ++ attr (lit "prop") block.field,
    lit "      " ++ attr (lit ":required") block.required ++ lit ">"] ++
  widgetLines block.field block.widget ++ [lit "    </el-form-item>"]

def header : List Text :=
  [lit "<template>", lit "  <el-form", lit "    ref=\"form\"", lit "    :model=\"formData\"",
    lit "    :rules=\"rules\"", lit "    label-width=\"100px\">"]

def footer : List Text :=
  [lit "    <el-form-item>",
    lit "      <el-button type=\"primary\" @click=\"handleSubmit\">Submit</el-button>",
    lit "    </el-form-item>", lit "  </el-form>", lit "</template>"]

def lines (blocks : List Block) : List Text :=
  header ++ blocks.flatMap blockLines ++ footer

/-- The markup of the blocks in order. -/
def ofBlocks (blocks : List Block) : Text :=
  Text.ofLines (lines blocks)

/-- What a placeholder made from a label begins with. -/
def enterPrompt : Text := lit "please enter "
def selectPrompt : Text := lit "please select "

/-- The bounds of a number field that gives none. -/
def defaultMinimum : Number := .whole 0
def defaultMaximum : Number := .whole 1000

end Template

namespace Attributes

/-- The placeholder of an item, or one made from its label; an empty one counts as missing. -/
def effectivePlaceholder (attributes : Attributes) (prompt : Text) : Text :=
  match attributes.placeholder with
  | some (c :: rest) => c :: rest
  | _ => prompt ++ attributes.label

def placeholderText (attributes : Attributes) (prompt : Text) : Text :=
  (attributes.effectivePlaceholder prompt).escape

def disabledText (attributes : Attributes) : Text :=
  writeFlag attributes.disabled

end Attributes

namespace Choice

def optionText (choice : Choice) : Except Fault OptionText := do
  return ⟨choice.caption.escape, ← choice.value.inMarkup⟩

end Choice

namespace Item

/-- The choices of an item that is to be written as one with choices. -/
def optionTexts (item : Item) : Except Fault (List OptionText) :=
  match item.control.options? with
  | some options => options.mapM Choice.optionText
  | none => .error (.noAttribute item.className (lit "options"))

/-- The control of an item. Which control it is goes by the type name; bounds and choices come
from the item's own control. -/
def widget (item : Item) : Except Fault Widget :=
  let disabled := item.disabledText
  match item.kind? with
  | none => .ok .absent
  | some .input => .ok (.input (item.placeholderText Template.enterPrompt) disabled)
  | some .textarea => .ok (.textarea (item.placeholderText Template.enterPrompt) disabled)
  | some .number =>
    match item.control.bounds? with
    | none => .error (.noAttribute item.className (lit "min"))
    | some (minimum, maximum) => do
      let minimum ← (minimum.getD Template.defaultMinimum).inMarkup
      let maximum ← (maximum.getD Template.defaultMaximum).inMarkup
      return .number minimum maximum disabled
  | some .select => do
    return .select (item.placeholderText Template.selectPrompt) disabled (← item.optionTexts)
  | some .radio => do
    return .group .radio disabled (← item.optionTexts)
  | some .checkbox => do
    return .group .checkbox disabled (← item.optionTexts)
  | some .date => .ok (.date (item.placeholderText Template.selectPrompt) disabled)
  | some .switch => .ok (.switch disabled)

def block (item : Item) : Except Fault Block := do
  return ⟨item.label.escape, item.field, writeFlag item.required, ← item.widget⟩

end Item

/-- The markup of a list of items. -/
def Template.build (items : List Item) : Except Fault Text := do
  return Template.ofBlocks (← items.mapM Item.block)

end Formwright
