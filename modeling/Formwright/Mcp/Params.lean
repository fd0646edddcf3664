import Formwright.Reading.Scalar
import Formwright.Uri.Basic

/-!
What the params of a request must hold. A test judges one document; an object is
judged by its members, and members that no test asks for are allowed. Members
that may be left out may also be null.
-/

namespace Formwright.Mcp

abbrev Test := Json → Bool

namespace Test

def isText : Test
  | .text _ => true
  | _ => false

def isOneOf (names : List Text) : Test
  | .text t => names.contains t
  | _ => false

def isUri : Test
  | .text t => Uri.isUri t
  | _ => false

/-- An integer and nothing that can be read as one. -/
def isInteger : Test
  | .int _ => true
  | _ => false

/-- An integer or something that can be read as one. -/
def isWhole : Test := fun j =>
  match (Value.ofJson j).readInteger with
  | .ok _ => true
  | .error _ => false

def isFlag : Test := fun j =>
  match (Value.ofJson j).readFlag with
  | .ok _ => true
  | .error _ => false

def isTextOrWhole : Test := fun j => isText j || isWhole j

def isArrayOf (test : Test) : Test
  | .array items => items.all test
  | _ => false

/-- An object whose members all pass a test. -/
def isObjectOf (test : Test) : Test
  | .object members => members.all fun (_, j) => test j
  | _ => false

/-- An object whose named members pass their tests, as far as they are there. -/
def isObjectWith (tests : List (String × Test)) : Test
  | .object members =>
    tests.all fun (name, test) =>
      match member? (lit name) members with
      | none => true
      | some .null => true
      | some j => test j
  | _ => false

def isObject : Test := isObjectWith []

/-- Whether a member is there and passes a test. -/
def has (name : String) (test : Test) : Test := fun j => (j.get? name).any test

def both (first second : Test) : Test := fun j => first j && second j

end Test

namespace Params

open Test

/-- What the params of every request may say: how its progress is to be reported, and whether it
is to be run as a task. -/
def isRequest : Test :=
  isObjectWith
    [("_meta", isObjectWith [("progressToken", isTextOrWhole)]),
      ("task", isObjectWith [("ttl", isInteger)])]

def isNotification : Test :=
  isObjectWith [("_meta", isObject)]

/-- What a client can do. -/
def isCapabilities : Test :=
  isObjectWith
    [("experimental", isObjectOf isObject),
      ("sampling", isObjectWith [("context", isObject), ("tools", isObject)]),
      ("elicitation", isObjectWith [("form", isObject), ("url", isObject)]),
      ("roots", isObjectWith [("listChanged", isFlag)]),
      ("tasks", isObjectWith
        [("list", isObject), ("cancel", isObject),
          ("requests", isObjectWith
            [("sampling", isObjectWith [("createMessage", isObject)]),
              ("elicitation", isObjectWith [("create", isObject)])])])]

def isIcon : Test :=
  both (has "src" isText) (isObjectWith [("mimeType", isText), ("sizes", isArrayOf isText)])

/-- Who a client is. -/
def isClient : Test :=
  both (both (has "name" isText) (has "version" isText))
    (isObjectWith [("title", isText), ("websiteUrl", isText), ("icons", isArrayOf isIcon)])

def isOpening : Test :=
  both (has "protocolVersion" isTextOrWhole)
    (both (has "capabilities" isCapabilities) (has "clientInfo" isClient))

/-- A list that may be asked for page by page. -/
def isPage : Test :=
  isObjectWith [("cursor", isText)]

def isCall : Test :=
  both (has "name" isText) (isObjectWith [("arguments", isObject)])

def isPrompt : Test :=
  both (has "name" isText) (isObjectWith [("arguments", isObjectOf isText)])

def isResource : Test := has "uri" isUri

def isTask : Test := has "taskId" isText

/-- What a completion is asked for: a resource or a prompt. -/
def isReference : Test := fun j =>
  both (has "type" (isOneOf [lit "ref/resource"])) (has "uri" isText) j ||
    both (has "type" (isOneOf [lit "ref/prompt"])) (has "name" isText) j

def isCompletion : Test :=
  both (has "ref" isReference)
    (both (has "argument" (both (has "name" isText) (has "value" isText)))
      (isObjectWith [("context", isObjectWith [("arguments", isObjectOf isText)])]))

def logLevels : List Text :=
  [lit "debug", lit "info", lit "notice", lit "warning", lit "error", lit "critical", lit "alert",
    lit "emergency"]

/-- The requests that are understood, by their names, with what their params must hold. -/
def requests : List (Text × Test) :=
  [(lit "ping", isObject), (lit "initialize", isOpening), (lit "tools/list", isPage),
    (lit "tools/call", isCall), (lit "resources/list", isPage),
    (lit "resources/templates/list", isPage), (lit "prompts/list", isPage),
    (lit "tasks/list", isPage), (lit "prompts/get", isPrompt), (lit "resources/read", isResource),
    (lit "resources/subscribe", isResource), (lit "resources/unsubscribe", isResource),
    (lit "completion/complete", isCompletion),
    (lit "logging/setLevel", has "level" (isOneOf logLevels)), (lit "tasks/get", isTask),
    (lit "tasks/result", isTask), (lit "tasks/cancel", isTask)]

/-- Whether a request of that name is understood with these params. -/
def fit (method : Text) (params : Json) : Bool :=
  isRequest params && (member? method requests).any fun test => test params

end Params

end Formwright.Mcp
