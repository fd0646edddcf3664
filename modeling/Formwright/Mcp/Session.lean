import Formwright.Mcp.Params
import Formwright.Mcp.Tools

/-!
A session with one client, one message to a line. Requests are answered in
order. Until the client has opened the session only opening it and pinging are
allowed. A line that is no request and no notification is answered with a log
message.
-/

namespace Formwright.Mcp

/-- A line from the client: a message, or the text of a line as it came. -/
inductive Line where
  | message (document : Json)
  | raw (line : Text)

/-- The levels of arrays and objects that may be open at once in a message. -/
def nestingLimit : Nat := 201

namespace Line

/-- The lines that a line turns out to be: every line break in it ends one. -/
def pieces : Line → List Line
  | message document => [message document]
  | raw t => (Text.splitAtBreaks (t ++ [newline])).dropLast.map raw

/-- The document on a line, if it can be read. Messages are Unicode text throughout. -/
def document? (line : Line) : Option Json :=
  let document := match line with
    | message document => some document
    | raw t => (Json.readWithin ⟨nestingLimit, Numeral.digitLimit⟩ t).toOption
  document.filter fun document => document.isScalar && document.depth ≤ nestingLimit

end Line

/-- What a line turns out to be. -/
inductive Incoming where
  | request (id : Json) (method : Text) (params : Option Json)
  | notification (method : Text) (params : Option Json)
  /-- Neither of them: broken lines and answers to questions that were never asked. -/
  | other

structure Session where
  settings : Settings
  isOpen : Bool

namespace Session

def start (settings : Settings) : Session :=
  ⟨settings, false⟩

def latestVersion : Text := lit "2025-11-25"

def protocolVersions : List Text :=
  [lit "2024-11-05", lit "2025-03-26", lit "2025-06-18", latestVersion]

/-- The version that is spoken with a client that asks for the given one. -/
def agreedVersion (requested : Json) : Text :=
  match requested with
  | .text t => if protocolVersions.contains t then t else latestVersion
  | _ => latestVersion

def idFits : Json → Bool
  | .int _ => true
  | .text _ => true
  | _ => false

/-- Whether a document reports the failure of a request. -/
def isFailureReport (document : Json) : Bool :=
  Test.has "id" Test.isTextOrWhole document &&
    Test.has "error" (.both (.has "code" .isWhole) (.has "message" .isText)) document

/-- What a message is. Its params are an object, null or absent; numbers in them that are not
finite count as null. A report of a failure is no request, whatever else it holds. -/
def classify (document : Json) : Incoming :=
  match document.get? "method", (document.get? "params").getD .null with
  | some (.text method), params =>
    if !Test.has "jsonrpc" (.isOneOf [lit "2.0"]) document || isFailureReport document then .other
    else
      let given : Option (Option Json) := match params with
        | .null => some none
        | .object members => some (some (Json.object members).finite)
        | _ => none
      match given, document.get? "id" with
      | none, _ => .other
      | some params, some id =>
        if idFits id then .request id method params else .notification method params
      | some params, none => .notification method params
  | _, _ => .other

def classifyLine (line : Line) : Incoming :=
  (line.document?.map classify).getD .other

def answer (id result : Json) : Json :=
  .ofMembers [("jsonrpc", .ofString "2.0"), ("id", id), ("result", result)]

def refusal (id : Json) (code : Int) (message : String) (data : Option Json) : Json :=
  .ofMembers [("jsonrpc", .ofString "2.0"), ("id", id),
    ("error", .ofMembers ([("code", .int code), ("message", .ofString message)] ++
      (data.map fun d => ("data", d)).toList))]

def invalidParams (id : Json) : Json :=
  refusal id (-32602) "Invalid request parameters" (some (.ofString ""))

def methodNotFound (id : Json) : Json :=
  refusal id (-32601) "Method not found" none

/-- What is logged to the client when a line cannot be dealt with. -/
def logMessage : Json :=
  .ofMembers [("jsonrpc", .ofString "2.0"), ("method", .ofString "notifications/message"),
    ("params", .ofMembers [("level", .ofString "error"),
      ("logger", .ofString "mcp.server.exception_handler"),
      ("data", .ofString "Internal Server Error")])]

def serverInfo : Json :=
  .ofMembers [("name", .ofString "form-codegen-mcp"), ("version", .ofString "1.30.0")]

def openingResult (version : Text) : Json :=
  .ofMembers [("protocolVersion", .text version),
    ("capabilities", .ofMembers [("experimental", .object []),
      ("tools", .ofMembers [("listChanged", .bool false)])]),
    ("serverInfo", serverInfo)]

/-- The result of a tool call: one text, and whether it reports a failed call. -/
def toolResult (t : Text) (isError : Bool) : Json :=
  .ofMembers [("content", .array [.ofMembers [("type", .ofString "text"), ("text", .text t)]]),
    ("isError", .bool isError)]

/-- Calls a tool. Arguments of a known tool are first checked against its schema. -/
def toolAnswer (settings : Settings) (name : Text) (arguments : Json) : Json :=
  let complaint := (tool? name).bind fun tool => tool.arguments.complaint? arguments
  match complaint with
  | some message => toolResult (lit "Input validation error: " ++ message) true
  | none =>
    let document : Except Failure Text := do
      let result ← call (.text name) (Value.ofJson arguments)
      (Tool.textsDocument settings result).mapError .fault
    match document with
    | .ok document => toolResult document false
    | .error failure => toolResult failure.message true

/-- The result of a tool call with fitting params. Left out or null, the arguments are empty. -/
def callResult (settings : Settings) (params : Json) : Json :=
  let name := match params.get? "name" with
    | some (.text name) => name
    | _ => []
  let arguments := match params.get? "arguments" with
    | some (.object members) => members
    | _ => []
  toolAnswer settings name (.object arguments)

/-- The answer to a request other than opening, with fitting params. Not all that is understood is
served. -/
def respond (s : Session) (id : Json) (method : Text) (params : Json) : Json :=
  if method = lit "ping" then answer id (.object [])
  else if method = lit "tools/list" then
    answer id (.ofMembers [("tools", .array (tools.map Tool.toJson))])
  else if method = lit "tools/call" then answer id (callResult s.settings params)
  else methodNotFound id

/-- The session after a request, and the answer. -/
def handle (s : Session) (id : Json) (method : Text) (params : Json) : Session × Json :=
  if !Params.fit method params then (s, invalidParams id)
  else if method = lit "initialize" then
    let version := agreedVersion ((params.get? "protocolVersion").getD .null)
    ({ s with isOpen := true }, answer id (openingResult version))
  else if s.isOpen || method = lit "ping" then (s, s.respond id method params)
  else (s, invalidParams id)

/-- The session after a line, and the messages that the line brings about. -/
def receiveLine (s : Session) (line : Line) : Session × List Json :=
  match classifyLine line with
  | .other => (s, [logMessage])
  | .notification method params =>
    let isOpening := method = lit "notifications/initialized" &&
      Params.isNotification (params.getD (.object []))
    ({ s with isOpen := s.isOpen || isOpening }, [])
  | .request id method params =>
    let (s, answer) := s.handle id method (params.getD (.object []))
    (s, [answer])

/-- The messages that a sequence of lines brings about, and the session after them. -/
def receiveAll (s : Session) : List Line → Session × List Json
  | [] => (s, [])
  | line :: lines =>
    let (s, messages) := s.receiveLine line
    let (s, more) := s.receiveAll lines
    (s, messages ++ more)

/-- The session after what came as a line, and the messages that it brings about. -/
def receive (s : Session) (line : Line) : Session × List Json :=
  s.receiveAll line.pieces

/-- The messages that a sequence of lines brings about. -/
def run (s : Session) (lines : List Line) : List Json :=
  (s.receiveAll (lines.flatMap Line.pieces)).2

end Session

end Formwright.Mcp
