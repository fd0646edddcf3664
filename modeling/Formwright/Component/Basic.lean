import Formwright.Component.Script
import Formwright.Component.Template

/-!
A component: markup, script and style of one form. The style is constant and may
be left out, which makes it empty.
-/

namespace Formwright

structure Component where
  template : Text
  script : Text
  style : Text
  deriving DecidableEq

namespace Style

def lines : List Text :=
  [lit "<style scoped>", lit ".el-form \x7b", lit "  max-width: 600px;", lit "  margin: 20px auto;",
    lit "  padding: 20px;", lit "  border: 1px solid #e6e6e6;", lit "  border-radius: 4px;",
    lit "\x7d", lit ".el-form-item \x7b", lit "  margin-bottom: 15px;", lit "\x7d", lit "</style>"]

/-- The style block, the same for every form. -/
def build : Text :=
  Text.ofLines lines

end Style

namespace Component

/-- The blocks with an empty line between neighbours and a line feed at the end. -/
def joinBlocks (blocks : List Text) : Text :=
  Text.joinWith [newline, newline] blocks ++ [newline]

/-- The component as one file; an empty style has no block in it. -/
def singleFile (component : Component) : Text :=
  joinBlocks
    ([component.template, component.script] ++
      if component.style.isEmpty then [] else [component.style])

/-- The component of a list of items. -/
def build (items : List Item) (includeStyle : Bool) : Except Fault Component := do
  return ⟨← Template.build items, Script.build items, if includeStyle then Style.build else []⟩

end Component

end Formwright
