import Formwright.Json.Reader
import Formwright.Reading.Item
import Formwright.Record.Rendering

/-!
From descriptors to a component. The descriptors are read once, all together;
then the markup is written and after it the script. For descriptors that are
mappings this is the same as building the component of the items they describe.
-/

namespace Formwright

/-- Why an operation gives no result. -/
inductive Failure where
  | rejected (r : Rejection)
  | fault (f : Fault)
  | unreadable (e : Json.ReadError)
  /-- No record goes by that name. -/
  | unknownName (name : Text)

namespace Failure

def message : Failure → Text
  | rejected r => r.report
  | fault f => f.message
  | unreadable e => e.message
  | unknownName name => name.quoted

end Failure

/-- What the markup and the script show of one descriptor, each part on its own. -/
structure Rendering where
  shape : Except Fault DataShape
  trigger : Except Fault Text
  control : Except Fault (List Text)
  block : Except Fault (List Text)

namespace Item

def rendering (item : Item) : Rendering where
  shape := .ok (DataShape.ofKind? item.kind?)
  trigger := .ok (checkEvent item.kind?)
  control := item.widget.map (Template.widgetLines item.field)
  block := item.block.map Template.blockLines

end Item

namespace Subject

def rendering (s : Subject) : Rendering where
  shape := s.shape
  trigger := s.trigger
  control := s.widget.map fun (field, widget) => Template.widgetLines field widget
  block := s.block.map Template.blockLines

end Subject

namespace Parsed

def toRecord : Parsed → Record
  | fresh item => .ofModel (.item item)
  | kept record => record

def rendering : Parsed → Rendering
  | fresh item => item.rendering
  | kept record => record.toSubject.rendering

def block : Parsed → Except Fault Block
  | fresh item => item.block
  | kept record => record.toSubject.block

def member : Parsed → Except Fault Member
  | fresh item => .ok item.member
  | kept record => record.toSubject.member

def isRequired : Parsed → Except Fault Bool
  | fresh item => .ok item.required
  | kept record => record.toSubject.isRequired

def rule : Parsed → Except Fault Rule
  | fresh item => .ok item.rule
  | kept record => record.toSubject.rule

end Parsed

namespace Parsed

/-- The markup of what was read. -/
def templateOf (parsed : List Parsed) : Except Fault Text := do
  return Template.ofBlocks (← parsed.mapM Parsed.block)

/-- The rules of those that are required, in order. -/
def rulesOf : List Parsed → Except Fault (List Rule)
  | [] => .ok []
  | p :: rest => do
    if ← p.isRequired then
      let rule ← p.rule
      return rule :: (← rulesOf rest)
    else rulesOf rest

/-- The script of what was read: all members are found before any rule is. -/
def scriptOf (parsed : List Parsed) : Except Fault Text := do
  let members ← parsed.mapM Parsed.member
  return Script.ofMembers members (← rulesOf parsed)

/-- The component of what was read: the markup is written before the script is. -/
def componentOf (parsed : List Parsed) (includeStyle : Bool) : Except Fault Component := do
  let template ← templateOf parsed
  let script ← scriptOf parsed
  return ⟨template, script, if includeStyle then Style.build else []⟩

theorem templateOf_map_fresh (items : List Item) :
    templateOf (items.map fresh) = Template.build items := by
  simp only [templateOf, Template.build, List.mapM_map]
  rfl

theorem mapM_member_fresh (items : List Item) :
    (items.map fresh).mapM member = .ok (items.map Item.member) := by
  induction items with
  | nil => rfl
  | cons item items ih =>
    rw [List.map_cons, List.mapM_cons, ih]
    rfl

theorem rulesOf_map_fresh (items : List Item) :
    rulesOf (items.map fresh) = .ok ((items.filter (·.required)).map Item.rule) := by
  induction items with
  | nil => rfl
  | cons item items ih =>
    cases h : item.required <;>
      simp [rulesOf, ih, isRequired, rule, h, bind, Except.bind, pure, Except.pure]

theorem scriptOf_map_fresh (items : List Item) :
    scriptOf (items.map fresh) = .ok (Script.build items) := by
  rw [scriptOf, mapM_member_fresh, rulesOf_map_fresh]
  rfl

/-- Descriptors that are all mappings make the component of the items they describe. -/
theorem componentOf_map_fresh (items : List Item) (includeStyle : Bool) :
    componentOf (items.map fresh) includeStyle = Component.build items includeStyle := by
  rw [componentOf, templateOf_map_fresh, scriptOf_map_fresh]
  rfl

end Parsed

namespace Descriptors

/-- The descriptors that come out when a value is gone through. -/
def read (descriptors : Value) : Except Failure (List Parsed) := do
  let values ← descriptors.elements.mapError .fault
  (readDescriptors values).mapError .rejected

def template (descriptors : Value) : Except Failure Text := do
  (Parsed.templateOf (← read descriptors)).mapError .fault

def script (descriptors : Value) : Except Failure Text := do
  (Parsed.scriptOf (← read descriptors)).mapError .fault

def component (descriptors : Value) (includeStyle : Bool) : Except Failure Component := do
  (Parsed.componentOf (← read descriptors) includeStyle).mapError .fault

end Descriptors

end Formwright
