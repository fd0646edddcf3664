import Formwright.CommandLine.Arguments
import Formwright.Mcp.Session

/-!
What the command does: it shows help, refuses its arguments, converses with a
client over its input lines, or hands an address to a web server.
-/

namespace Formwright.CommandLine

/-- How a value that may have been taken away is shown. -/
def shown (value : Option Text) : Text :=
  value.getD (lit "[]")

/-- Why the command breaks off. -/
inductive Failure where
  | badSetting (problem : Settings.Problem)
  /-- The transport is none of those that there are. -/
  | unknownTransport (transport : Option Text)
  | unknownLogLevel (level : Text)

namespace Failure

def message : Failure → Text
  | badSetting problem => problem.message
  | unknownTransport transport =>
    lit "Unknown transport: " ++ shown transport ++ lit ". Use 'stdio' or 'sse'."
  | unknownLogLevel level => level.quoted

end Failure

/-- Where the web server is to listen, and how much it logs. -/
structure Address where
  host : Option Text
  portNumber : Option Int
  logLevel : Text

/-- What a run comes to. -/
inductive Outcome where
  | help
  | refused (c : Complaint)
  /-- A conversation over the input lines, one message to a line. -/
  | converse (session : Mcp.Session)
  | serve (address : Address)

def programName : Text := lit "run_mcp_server.py"

def usage : Text :=
  lit "usage: " ++ programName ++
    lit " [-h] [--transport \x7bstdio,sse\x7d] [--host HOST]\n                         [--port PORT]\n"

def help : Text :=
  usage ++ Text.ofLines
    [[], lit "form-codegen MCP server", [], lit "options:",
      lit "  -h, --help            show this help message and exit",
      lit "  --transport \x7bstdio,sse\x7d", lit "  --host HOST", lit "  --port PORT", []]

namespace Outcome

/-- The exit status. -/
def status : Outcome → Nat
  | refused _ => 2
  | _ => 0

/-- What is printed at once. -/
def output : Outcome → Text
  | help => CommandLine.help
  | _ => []

/-- What is printed among the errors. -/
def errors : Outcome → Text
  | refused c => usage ++ programName ++ lit ": error: " ++ c.message ++ [newline]
  | _ => []

end Outcome

/-- The levels that the web server knows. -/
def serverLogLevels : List Text :=
  [lit "critical", lit "error", lit "warning", lit "info", lit "debug", lit "trace"]

/-- Starts what the options name. -/
def start (settings : Settings) (options : Options) : Except Failure Outcome :=
  if options.transport = some (lit "stdio") then .ok (.converse (.start settings))
  else if options.transport = some (lit "sse") then
    let level := settings.logLevel.toSmall
    if serverLogLevels.contains level then .ok (.serve ⟨options.host, options.portNumber, level⟩)
    else .error (.unknownLogLevel level)
  else .error (.unknownTransport options.transport)

/-- A run of the command under some variables with some arguments. -/
def run (environment : List (Text × Text)) (arguments : List Text) : Except Failure Outcome := do
  let settings ← (Settings.ofVariables environment).mapError .badSetting
  match read settings arguments with
  | .error complaint => return .refused complaint
  | .ok .help => return .help
  | .ok (.start options) => start settings options

end Formwright.CommandLine
