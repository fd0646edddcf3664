import Formwright.Json.Basic
import Formwright.Value.Display

/-!
A small language of JSON schemas: enough to describe the arguments of a tool.
A schema can be published as a document, and a document can be checked against
it. Integers are numbers without fraction, flags are no numbers, and members
that a schema does not list are allowed.
-/

namespace Formwright

inductive Schema where
  | text
  /-- A text that is one of those names. -/
  | oneOf (names : List Text)
  | integer
  | number
  | flag (default : Bool)
  | textOrNumber
  | array (items : Schema)
  | object (properties : List (Text × Schema)) (required : List Text)
  /-- A schema with a note for its readers. -/
  | described (note : Text) (schema : Schema)

namespace Schema

/-- A type name that a schema asks for. -/
def typeMember (name : String) : Text × Json :=
  (lit "type", .ofString name)

mutual

/-- The members of the published document. -/
def toMembers : Schema → List (Text × Json)
  | text => [typeMember "string"]
  | oneOf names => [typeMember "string", (lit "enum", .array (names.map Json.text))]
  | integer => [typeMember "integer"]
  | number => [typeMember "number"]
  | flag default => [typeMember "boolean", (lit "default", .bool default)]
  | textOrNumber => [(lit "type", .array [.ofString "string", .ofString "number"])]
  | array items => [typeMember "array", (lit "items", .object (toMembers items))]
  | object properties required =>
    [typeMember "object", (lit "properties", .object (propertyMembers properties))] ++
      if required.isEmpty then [] else [(lit "required", .array (required.map Json.text))]
  | described note schema => (lit "description", .text note) :: toMembers schema

def propertyMembers : List (Text × Schema) → List (Text × Json)
  | [] => []
  | (name, schema) :: rest => (name, .object (toMembers schema)) :: propertyMembers rest

end

def toJson (schema : Schema) : Json :=
  .object schema.toMembers

/-- What a document violates, and how deep in it. -/
structure Violation where
  depth : Nat
  message : Text

/-- The literal form of a document in messages. -/
def shown (j : Json) : Text :=
  match (Value.ofJson j).literal with
  | .ok t => t
  | .error _ => []

def wrongType (depth : Nat) (j : Json) (types : List String) : List Violation :=
  [⟨depth, shown j ++ lit " is not of type " ++
    Text.joinWith (lit ", ") (types.map fun t => (lit t).quoted)⟩]

def isNumber : Json → Bool
  | .int _ => true
  | .float _ => true
  | _ => false

def isInteger : Json → Bool
  | .int _ => true
  | .float x => x.toInt?.isSome
  | _ => false

def isText : Json → Bool
  | .text _ => true
  | _ => false

def quotedNames (names : List Text) : Text :=
  lit "[" ++ Text.joinWith (lit ", ") (names.map Text.quoted) ++ lit "]"

def missingMembers (depth : Nat) (required : List Text) (members : List (Text × Json)) :
    List Violation :=
  (required.filter fun name => (member? name members).isNone).map fun name =>
    ⟨depth, name.quoted ++ lit " is a required property"⟩

mutual

/-- Everything that a document at some depth violates, in the order of the schema. -/
def violations (depth : Nat) (j : Json) : Schema → List Violation
  | text => if isText j then [] else wrongType depth j ["string"]
  | oneOf names =>
    (if isText j then [] else wrongType depth j ["string"]) ++
      match j with
      | .text t =>
        if names.contains t then [] else
          [⟨depth, shown j ++ lit " is not one of " ++ quotedNames names⟩]
      | j => [⟨depth, shown j ++ lit " is not one of " ++ quotedNames names⟩]
  | integer => if isInteger j then [] else wrongType depth j ["integer"]
  | number => if isNumber j then [] else wrongType depth j ["number"]
  | flag _ =>
    match j with
    | .bool _ => []
    | j => wrongType depth j ["boolean"]
  | textOrNumber =>
    if isText j || isNumber j then [] else wrongType depth j ["string", "number"]
  | array items =>
    match j with
    | .array documents => documents.flatMap fun j => violations (depth + 1) j items
    | j => wrongType depth j ["array"]
  | object properties required =>
    match j with
    | .object members =>
      propertyViolations (depth + 1) members properties ++ missingMembers depth required members
    | j => wrongType depth j ["object"]
  | described _ schema => violations depth j schema

def propertyViolations (depth : Nat) (members : List (Text × Json)) :
    List (Text × Schema) → List Violation
  | [] => []
  | (name, schema) :: rest =>
    (match member? name members with
      | some j => violations depth j schema
      | none => []) ++ propertyViolations depth members rest

end

/-- Whether a document violates nothing. -/
def accepts (schema : Schema) (j : Json) : Bool :=
  (violations 0 j schema).isEmpty

/-- The message on the first of the outermost violations. -/
def complaint? (schema : Schema) (j : Json) : Option Text :=
  let found := violations 0 j schema
  (found.find? fun v => found.all fun w => v.depth ≤ w.depth).map (·.message)

end Schema

end Formwright
