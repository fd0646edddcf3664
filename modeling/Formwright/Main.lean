import Formwright.CommandLine.Run

/-!
The command itself: it reads variables, arguments and input lines, and prints
what the library says.
-/

namespace Formwright.Main

def readVariables : IO (List (Text × Text)) := do
  let found ← Settings.variableNames.mapM fun name => do
    return (← IO.getEnv name.toString).map fun value => (name, lit value)
  return found.filterMap id

/-- Answers the lines of the input until it ends. -/
partial def converse (session : Mcp.Session) : IO Unit := do
  let line ← (← IO.getStdin).getLine
  if line.isEmpty then return
  let (session, messages) := session.receive (.raw (lit line).dropFinalNewline)
  for message in messages do
    IO.println (Json.write .compact message).toString
  (← IO.getStdout).flush
  converse session

/-- Says where the web server is expected to listen. -/
def announce (address : CommandLine.Address) : IO Unit :=
  IO.eprintln (CommandLine.shown address.host ++ lit ":" ++
    CommandLine.shown (address.portNumber.map Text.ofInt)).toString

end Formwright.Main

open Formwright

def main (arguments : List String) : IO UInt32 := do
  match CommandLine.run (← Main.readVariables) (arguments.map lit) with
  | .error failure =>
    IO.eprintln failure.message.toString
    return 1
  | .ok outcome =>
    IO.print outcome.output.toString
    IO.eprint outcome.errors.toString
    match outcome with
    | .converse session => Main.converse session
    | .serve address => Main.announce address
    | _ => pure ()
    return outcome.status.toUInt32
