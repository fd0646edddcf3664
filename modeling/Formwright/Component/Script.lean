import Formwright.Field.Item
import Formwright.Text.Escape

/-!
The script of a form: the interface of its data, the initial data, the rules of
the required fields and the submit handler. Members follow the order of the
items; an empty list of members or rules leaves an empty line.
-/

namespace Formwright

/-- A field in the interface and in the initial data. -/
structure Member where
  field : Text
  shape : DataShape
  deriving DecidableEq

/-- The rule of a required field; its label is already escaped. -/
structure Rule where
  field : Text
  label : Text
  trigger : Text
  deriving DecidableEq

namespace Script

def header : List Text :=
  [lit "<script setup lang=\"ts\">", lit "import \x7b ref, reactive \x7d from 'vue';",
    lit "import \x7b ElMessage, ElForm \x7d from 'element-plus';", []]

def submission : List Text :=
  [lit "// Form reference", lit "const form = ref<InstanceType<typeof ElForm> | null>(null);", [],
    lit "// Submit form", lit "const handleSubmit = () => \x7b", lit "  if (!form.value) return;",
    lit "  form.value.validate((valid) => \x7b", lit "    if (valid) \x7b",
    lit "      ElMessage.success('Submitted successfully');",
    lit "      console.log('Form data:', formData);", lit "    \x7d else \x7b",
    lit "      ElMessage.error('Please complete the form');", lit "      return false;",
    lit "    \x7d", lit "  \x7d);", lit "\x7d;", lit "</script>"]

def interfaceOpening : Text := lit "interface FormData \x7b"
def dataOpening : Text := lit "const formData = reactive<FormData>(\x7b"
def rulesOpening : Text := lit "const rules = reactive<Record<string, any[]>>(\x7b"
def closing : Text := lit "\x7d);"

/-- The entries of an object literal, one to a line with a comma between neighbours. -/
def entries (written : List Text) : Text :=
  Text.joinWith (lit "," ++ [newline]) written

def interfaceMember (m : Member) : Text :=
  lit "  " ++ m.field ++ lit ": " ++ m.shape.type ++ lit ";"

def dataEntry (m : Member) : Text :=
  lit "  " ++ m.field ++ lit ": " ++ m.shape.initial

def ruleMessage (r : Rule) : Text :=
  lit "please enter " ++ r.label

def ruleEntry (r : Rule) : Text :=
  Text.ofLines
    [lit "  " ++ r.field ++ lit ": [",
      lit "    \x7b required: true, message: '" ++ ruleMessage r ++ lit "', trigger: '" ++
        r.trigger ++ lit "' \x7d",
      lit "  ]"]

def lines (members : List Member) (rules : List Rule) : List Text :=
  header ++ interfaceOpening :: members.map interfaceMember ++
  [lit "\x7d", [], lit "// Form data", dataOpening, entries (members.map dataEntry), closing, [],
    lit "// Form validation rules", rulesOpening, entries (rules.map ruleEntry), closing, []] ++
  submission

/-- The script with the given members and rules. -/
def ofMembers (members : List Member) (rules : List Rule) : Text :=
  Text.ofLines (lines members rules)

end Script

namespace Item

def member (item : Item) : Member :=
  ⟨item.field, DataShape.ofKind? item.kind?⟩

def rule (item : Item) : Rule :=
  ⟨item.field, item.label.escape, checkEvent item.kind?⟩

end Item

/-- The script of a list of items. -/
def Script.build (items : List Item) : Text :=
  Script.ofMembers (items.map Item.member) ((items.filter (·.required)).map Item.rule)

end Formwright
