import Formwright.Json.Schema
import Formwright.Surface.Tool

/-!
The tools that a client may call, and the dispatch of a call by name. What is
wrong with a call is told in the result, so that the client sees it.
-/

namespace Formwright.Mcp

structure Tool where
  name : Text
  description : Text
  arguments : Schema

def formToolName : Text := lit "generate_vue_form"
def styleToolName : Text := lit "generate_form_style"

/-- A choice as a client describes it. -/
def choiceSchema : Schema :=
  .object [(lit "label", .text), (lit "value", .textOrNumber)] [lit "label", lit "value"]

/-- A descriptor as a client describes it. -/
def descriptorSchema : Schema :=
  .object
    [(lit "id", .integer), (lit "type", .oneOf (Kind.all.map Kind.name)), (lit "label", .text),
      (lit "field", .text), (lit "placeholder", .text), (lit "required", .flag false),
      (lit "disabled", .flag false), (lit "options", .array choiceSchema), (lit "min", .number),
      (lit "max", .number)]
    [lit "id", lit "type", lit "label", lit "field"]

def formArguments : Schema :=
  .object
    [(lit "fields", .described (lit "Field descriptors in display order")
        (.array descriptorSchema)),
      (lit "include_style",
        .described (lit "Whether to include the scoped style block (default: true)") (.flag true))]
    [lit "fields"]

def formTool : Tool where
  name := formToolName
  description := Text.ofLines
    [lit "Generate Vue 3 + Element Plus form component code from field descriptors.", [],
      lit "WHEN TO USE:",
      lit "- When the user has described the fields of a form and wants source code",
      lit "- When a form builder needs the template, script and style of a form", [],
      lit "HOW TO USE:",
      lit "- Provide ALL fields in a SINGLE call, in display order",
      lit "- Each \"field\" key must be a valid identifier and unique in the form",
      lit "- select, radio and checkbox fields need \"options\"", [],
      lit "RETURNS:",
      lit "A JSON object with template, script, style and sfc (the complete .vue file)."]
  arguments := formArguments

def styleTool : Tool where
  name := styleToolName
  description := lit "Return the scoped style block shared by all generated forms."
  arguments := .object [] []

def tools : List Tool := [formTool, styleTool]

def tool? (name : Text) : Option Tool :=
  tools.find? fun tool => tool.name = name

def Tool.toJson (tool : Tool) : Json :=
  .ofMembers [("name", .text tool.name), ("description", .text tool.description),
    ("inputSchema", tool.arguments.toJson)]

/-- A result that reports what is wrong. -/
def errorResult (message : Text) : List (Text × Text) :=
  [(lit "error", message)]

/-- The component of the descriptors among the arguments. Only rejected descriptors are told in
the result; an integer past the limit ends the call. -/
def callFormTool (arguments : Value) : Except Failure (List (Text × Text)) :=
  match arguments with
  | .object members =>
    match member? (lit "fields") members with
    | some (.list fields) =>
      let includeStyle := ((member? (lit "include_style") members).map Value.isTrue).getD true
      match Descriptors.component (.list fields) includeStyle with
      | .ok c => .ok c.exports
      | .error (.rejected r) => .ok (errorResult r.report)
      | .error failure => .error failure
    | _ => .ok (errorResult (lit "'fields' must be an array of field descriptors"))
  | v => .error (.fault (v.missingOperation (lit "get")))

/-- The result of a call, an object of texts. The name may be any value; only the name of a tool
selects one. -/
def call (name arguments : Value) : Except Failure (List (Text × Text)) := do
  match name with
  | .text t =>
    if t = formToolName then callFormTool arguments
    else if t = styleToolName then return [(lit "style", Style.build)]
    else return errorResult (lit "Unknown tool: " ++ t)
  | v => return errorResult (lit "Unknown tool: " ++ (← v.display.mapError .fault))

end Formwright.Mcp
