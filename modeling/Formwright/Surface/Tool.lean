import Formwright.Descriptors
import Formwright.Json.Writer
import Formwright.Settings

/-!
The text tool: a JSON array of descriptors in, a JSON document out. The document
holds the component, or says what is wrong, so that a caller can always read the
answer. An agent calls the tool with a JSON object of arguments and is only told
that it failed when these do not fit.
-/

namespace Formwright

namespace Component

/-- The blocks of a component and the file they make. -/
def exports (c : Component) : List (Text × Text) :=
  [(lit "template", c.template), (lit "script", c.script), (lit "style", c.style),
    (lit "sfc", c.singleFile)]

end Component

/-- An object whose values are texts. -/
def Json.ofTexts (members : List (Text × Text)) : Json :=
  .object (members.map fun (name, t) => (name, .text t))

namespace Settings

/-- The least width of indentation that is taken to be past memory. Where memory ends depends on
the machine: that it holds every width below this and none from here on is an assumption. -/
def memoryBound : Int := 0x10000000000

/-- The layout of written documents. -/
def layout (settings : Settings) : Except Fault Json.Layout :=
  if !Numeral.isWord settings.indent then .error .widthNotWord
  else if memoryBound ≤ settings.indent then .error .widthPastMemory
  else .ok (.indented settings.indent)

end Settings

namespace Tool

/-- The descriptors of a document must be an array. -/
def notArrayMessage : Text := lit "Expected a JSON array of field descriptors"

/-- The document that reports what is wrong, on one line. -/
def errorDocument (message : Text) : Text :=
  Json.write .oneLine
    (.ofMembers [("error", .bool true), ("message", .text message)])

/-- A document of texts, indented as the settings say. -/
def textsDocument (settings : Settings) (members : List (Text × Text)) : Except Fault Text := do
  return Json.write (← settings.layout) (.ofTexts members)

/-- The document that holds a component. -/
def componentDocument (settings : Settings) (c : Component) : Except Fault Text :=
  textsDocument settings c.exports

/-- The component of the descriptors in a document. -/
def component (document : Text) (includeStyle : Bool) : Except Failure (Option Component) := do
  match ← (Json.read document).mapError .unreadable with
  | .array items => do
    return some (← Descriptors.component (Value.ofJson (.array items)) includeStyle)
  | _ => return none

/-- Whether a failure is told in the answer; the others end the call. -/
def isReported : Failure → Bool
  | .rejected _ => true
  | .unreadable .tooDeep => false
  | .unreadable _ => true
  | .fault .numeralTooLong => true
  | _ => false

/-- The answer to a text that should be an array of descriptors. -/
def answer (settings : Settings) (document : Text) (includeStyle : Bool) : Except Failure Text :=
  match component document includeStyle with
  | .ok (some c) => (componentDocument settings c).mapError .fault
  | .ok none => .ok (errorDocument notArrayMessage)
  | .error failure =>
    if isReported failure then .ok (errorDocument failure.message) else .error failure

/-- The answer to any value in place of the text. -/
def answerValue (settings : Settings) (document : Value) (includeStyle : Bool) :
    Except Failure Text :=
  match document with
  | .text t => answer settings t includeStyle
  | v => .error (.fault (.notDocument v.typeName))

end Tool

namespace AgentTool

def name : Text := lit "generate_vue_form_tool"

def description : Text :=
  Text.ofLines [lit "Generate Vue + Element Plus form code from field descriptors.", [],
    lit "Use this tool once the form's fields are known and the user wants",
    lit "source code for the form component."]

def fieldsDescription : Text :=
  Text.ofLines [lit "JSON array of field descriptors. Each has id, type",
    lit "(input, textarea, number, select, radio, checkbox, date, switch),",
    lit "label, field, optional placeholder, required, disabled, options",
    lit "(for select/radio/checkbox) and min/max (for number).",
    lit "Example: [\x7b\"id\": 1, \"type\": \"input\", \"label\": \"Name\", \"field\": \"name\", \"required\": true\x7d]"]

/-- The schema of the arguments; every argument is listed as required. -/
def schema : Json :=
  .ofMembers [
    ("type", .ofString "object"),
    ("title", .ofString "generate_vue_form_tool_args"),
    ("properties", .ofMembers [
      ("fields_json", .ofMembers [("type", .ofString "string"), ("title", .ofString "Fields Json"),
        ("description", .text fieldsDescription)]),
      ("include_style", .ofMembers [("type", .ofString "boolean"),
        ("title", .ofString "Include Style"), ("default", .bool true),
        ("description", .ofString "Whether to include the scoped style block.")])]),
    ("required", .array [.ofString "fields_json", .ofString "include_style"]),
    ("additionalProperties", .bool false)]

def failureMessage : Text :=
  lit "An error occurred while running the tool. Please try again."

/-- The arguments of a call: the document and whether the style is wanted. -/
def readArguments (arguments : Text) : Option (Text × Bool) :=
  let document := if arguments.isEmpty then lit "\x7b\x7d" else arguments
  match Json.read document with
  | .ok (.object members) =>
    match member? (lit "fields_json") members with
    | some (.text fields) =>
      match member? (lit "include_style") members with
      | none => some (fields, true)
      | some flag =>
        match (Value.ofJson flag).readFlag with
        | .ok includeStyle => some (fields, includeStyle)
        | .error _ => none
    | _ => none
  | _ => none

/-- The answer to a call with the given arguments. -/
def invoke (settings : Settings) (arguments : Text) : Text :=
  match readArguments arguments with
  | none => failureMessage
  | some (fields, includeStyle) =>
    match Tool.answer settings fields includeStyle with
    | .ok answer => answer
    | .error _ => failureMessage

end AgentTool

end Formwright
