import Formwright.Json.Writer
import Formwright.Number.Reading
import Formwright.Text.Utf8

/-!
The web front of a server with no live session: a health report, and an endpoint
for messages that can only refuse them. A path that would be served with or
without a slash at its end is redirected; every other path is unknown. A path
may hold no line feeds but one at its very end, which does not count.
-/

namespace Formwright.Web

structure Request where
  method : Text
  /-- The path with the query behind it. -/
  target : Text
  headers : List (Text × Text)

structure Response where
  status : Nat
  body : Text
  contentType : Option Text
  /-- The methods that would have been allowed. -/
  allow : Option Text
  location : Option Text
  deriving DecidableEq

namespace Response

def bare (status : Nat) (body : Text) : Response :=
  ⟨status, body, none, none, none⟩

def plain (status : Nat) (body : Text) : Response :=
  { bare status body with contentType := some (lit "text/plain; charset=utf-8") }

end Response

namespace Request

/-- The value of the first header of that name, which is spelled in small letters. -/
def header? (request : Request) (name : String) : Option Text :=
  (request.headers.find? fun (n, _) => n.asciiLower = lit name).map (·.2)

end Request

/-- What a path leads to. -/
inductive Place where
  | health
  | messages
  | stream
  deriving DecidableEq

/-- Whether a path lies below a directory. -/
def isBelow (directory path : Text) : Bool :=
  match Text.after? (directory ++ lit "/") path with
  | some rest => !(Text.dropFinalNewline rest).contains newline
  | none => false

/-- The place that a path leads to, if there is one. -/
def placeOf? (path : Text) : Option Place :=
  if path.dropFinalNewline = lit "/health" then some .health
  else if isBelow (lit "/sse/messages") path then some .messages
  else if isBelow (lit "/sse") path then some .stream
  else none

def healthReport : Text :=
  Json.write .compact (.ofMembers [("status", .ofString "healthy"),
    ("service", .ofString "form-codegen-mcp"), ("transport", .ofString "sse"),
    ("version", .ofString "0.1.0")])

/-- The answer on the state of the server. -/
def health (method : Text) : Response :=
  if method = lit "GET" ∨ method = lit "HEAD" then
    { Response.bare 200 healthReport with contentType := some (lit "application/json") }
  else { Response.plain 405 (lit "Method Not Allowed") with allow := some (lit "GET, HEAD") }

/-- The bytes of a query part: escapes are undone, a plus sign stands for a blank. Nothing past
ASCII may stand unescaped. -/
def unescape : Text → Option (List UInt8)
  | [] => some []
  | .scalar '%' :: a :: b :: rest =>
    match a.hexDigit?, b.hexDigit? with
    | some high, some low => do return .ofNat (16 * high + low) :: (← unescape rest)
    | _, _ => do return 0x25 :: (← unescape (a :: b :: rest))
  | .scalar '+' :: rest => do return 0x20 :: (← unescape rest)
  | c :: rest =>
    if c.value < 0x80 then do return .ofNat c.value :: (← unescape rest)
    else none

/-- The text that a query part spells. -/
def readPart (t : Text) : Option Text := do
  Text.ofUtf8? (← unescape t)

/-- The values that a query gives to a name, unread, in order. -/
def queryValues (name query : Text) : List Text :=
  (query.splitAt (.scalar '&')).filterMap fun piece =>
    let (key, value) := piece.cutAt (.scalar '=')
    if !piece.isEmpty && readPart key == some name then some (value.getD []) else none

/-- A text without any occurrence of `part`; `skip` code points of one are still to be passed. -/
def removeFrom (part : Text) (skip : Nat) : Text → Text
  | [] => []
  | c :: rest =>
    match skip with
    | skip + 1 => removeFrom part skip rest
    | 0 =>
      if Text.startsWith (c :: rest) part then removeFrom part (part.length - 1) rest
      else c :: removeFrom part 0 rest

def remove (part t : Text) : Text :=
  removeFrom part 0 t

/-- Hexadecimal digits with single underscores between them. -/
def isDigitRun : Text → Bool
  | [] => false
  | [c] => c.hexDigit?.isSome
  | c :: d :: rest =>
    c.hexDigit?.isSome && if d = .scalar '_' then isDigitRun rest else isDigitRun (d :: rest)

/-- A decimal digit of any script as an ASCII digit. -/
def asAsciiDigit (c : CodePoint) : CodePoint :=
  (c.decimal?.map fun d => CodePoint.ofNat (48 + d)).getD c

/-- Whether a text is a hexadecimal number: blanks around it, a plus sign, the usual start and
the decimal digits of every script are allowed. -/
def isHexNumber (t : Text) : Bool :=
  let body := match t.trimWhiteSpace.map asAsciiDigit with
    | .scalar '+' :: rest => rest
    | rest => rest
  match body with
  | .scalar '0' :: x :: rest =>
    if x = .scalar 'x' ∨ x = .scalar 'X' then
      isDigitRun (match rest with
        | .scalar '_' :: rest => rest
        | rest => rest)
    else isDigitRun body
  | body => isDigitRun body

/-- Whether a text identifies a session: 32 code points of a hexadecimal number, once scheme
names, enclosing braces and dashes are taken away. -/
def identifiesSession (t : Text) : Bool :=
  let isBrace (c : CodePoint) : Bool := c == .scalar '{' || c == .scalar '}'
  let digits := remove (lit "-")
    ((remove (lit "uuid:") (remove (lit "urn:") t)).trimWhere isBrace)
  digits.length == 32 && isHexNumber digits

/-- Whether the headers announce a JSON body. -/
def announcesJson (request : Request) : Bool :=
  (request.header? "content-type").any fun value =>
    value.asciiLower.startsWith (lit "application/json")

/-- The greatest size of a message. -/
def sizeLimit : Int := 4194304

/-- Whether the headers announce a message past the limit. A size that cannot be read announces
nothing. -/
def announcesTooMuch (request : Request) : Bool :=
  (request.header? "content-length").any fun value =>
    value.all (·.value < 0x80) &&
      match Numeral.readSetting value with
      | .ok size => sizeLimit < size
      | .error _ => false

/-- A message to a session. As no session is live, the answer only tells what is missing. -/
def refuseMessage (request : Request) (query : Text) : Response :=
  if request.method ≠ lit "POST" then { Response.bare 405 [] with allow := some (lit "POST") }
  else if announcesTooMuch request then .bare 413 (lit "Request body too large")
  else if !announcesJson request then .bare 400 (lit "Invalid Content-Type header")
  else match (queryValues (lit "session_id") query).getLast? with
    | none => .bare 400 (lit "session_id is required")
    | some value =>
      if (readPart value).any identifiesSession then .bare 404 (lit "Could not find session")
      else .bare 400 (lit "Invalid session ID")

/-- The marks that stand unescaped in an address besides letters and digits. -/
def addressMarks : Text := lit "_.-~:/%#?=@[]!$&'()*+,;"

/-- A text as it stands in an address. -/
def escapeAddress (t : Text) : Text :=
  t.flatMap fun c =>
    let n := c.value
    if c.isDigit || (65 ≤ n && n ≤ 90) || (97 ≤ n && n ≤ 122) || addressMarks.contains c then [c]
    else c.utf8Bytes.flatMap fun b =>
      .scalar '%' :: (Text.ofHex 2 b.toNat).map fun d =>
        if 97 ≤ d.value ∧ d.value ≤ 102 then .ofNat (d.value - 32) else d

/-- The address of this server where a request names none. -/
def ownHost : Text := lit "localhost:8080"

/-- The marks that the name of a host may hold besides letters and digits. -/
def hostMarks : Text := lit "-._~!$&'()*+,;=%"

/-- Whether a text is an ASCII letter, a digit or a mark of host names. -/
def isHostSign (c : CodePoint) : Bool :=
  let n := c.asciiLower.value
  c.isDigit || (97 ≤ n && n ≤ 122) || hostMarks.contains c

/-- Whether nothing follows the name of a host, or a colon and digits. -/
def endsHost : Text → Bool
  | [] => true
  | .scalar ':' :: digits => !digits.isEmpty && digits.all (·.isDigit)
  | _ => false

/-- Whether a text is a host as addresses hold it: a name, or a number in brackets. -/
def isHost (t : Text) : Bool :=
  match t with
  | .scalar '[' :: rest =>
    match Text.cutAt (.scalar ']') rest with
    | (number, some behind) =>
      !number.isEmpty && endsHost behind &&
        number.all fun c => c.hexDigit?.isSome || c = .scalar ':' || c = .scalar '.'
    | _ => false
  | t => !(t.takeWhile isHostSign).isEmpty && endsHost (t.dropWhile isHostSign)

/-- The host that a request was sent to. -/
def hostOf (request : Request) : Text :=
  match request.header? "host" with
  | some host => if isHost host then host else ownHost
  | none => ownHost

/-- A redirection to a path of this server; the query is kept. -/
def redirect (request : Request) (path : Text) (query : Option Text) : Response :=
  let query := match query with
    | some (c :: rest) => .scalar '?' :: c :: rest
    | _ => []
  { Response.bare 307 [] with
    location := some (escapeAddress (lit "http://" ++ hostOf request ++ path ++ query)) }

/-- The path that differs in the slash at its end. -/
def slashTwin (path : Text) : Text :=
  if path.getLast? = some (.scalar '/') then
    (path.reverse.dropWhile (· = .scalar '/')).reverse
  else path ++ lit "/"

def notFound : Response :=
  .plain 404 (lit "Not Found")

/-- The answer to a request. The stream of a session is not served here. -/
def respond (request : Request) : Response :=
  let (path, query) := request.target.cutAt (.scalar '?')
  match placeOf? path with
  | some .health => health request.method
  | some .messages => refuseMessage request (query.getD [])
  | some .stream => notFound
  | none =>
    let twin := slashTwin path
    if path ≠ lit "/" ∧ (placeOf? twin).isSome then redirect request twin query
    else notFound

end Formwright.Web
