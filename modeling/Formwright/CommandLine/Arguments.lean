import Formwright.Settings

/-!
The arguments of the command line. Every argument is classified before any is
acted on, so an ambiguous abbreviation is refused first; then options take their
values from left to right, and asking for help ends the reading. What belongs to
no option is refused at the end, all of it together.
-/

namespace Formwright.CommandLine

inductive Switch where
  | help
  | transport
  | host
  | portNumber
  deriving DecidableEq

namespace Switch

/-- How the switches are spelled, in the order in which they are listed. -/
def spellings : List (Text × Switch) :=
  [(lit "-h", help), (lit "--help", help), (lit "--transport", transport), (lit "--host", host),
    (lit "--port", portNumber)]

/-- A switch in messages: all its spellings. -/
def title (switch : Switch) : Text :=
  Text.joinWith (lit "/") ((spellings.filter fun (_, s) => s = switch).map (·.1))

end Switch

/-- What is wrong with the arguments. -/
inductive Complaint where
  /-- An abbreviation of several spellings. -/
  | ambiguous (argument : Text) (spellings : List Text)
  | valueExpected (switch : Switch)
  | valueIgnored (switch : Switch) (value : Text)
  | notInteger (switch : Switch) (value : Text)
  | notChoice (switch : Switch) (value : Text) (choices : List Text)
  | unrecognized (arguments : List Text)
  deriving DecidableEq

namespace Complaint

def about (switch : Switch) (t : Text) : Text :=
  lit "argument " ++ switch.title ++ lit ": " ++ t

def message : Complaint → Text
  | ambiguous argument spellings =>
    lit "ambiguous option: " ++ argument ++ lit " could match " ++
      Text.joinWith (lit ", ") spellings
  | valueExpected switch => about switch (lit "expected one argument")
  | valueIgnored switch value => about switch (lit "ignored explicit argument " ++ value.quoted)
  | notInteger switch value => about switch (lit "invalid int value: " ++ value.quoted)
  | notChoice switch value choices =>
    about switch (lit "invalid choice: " ++ value.quoted ++ lit " (choose from " ++
      Text.joinWith (lit ", ") (choices.map Text.quoted) ++ lit ")")
  | unrecognized arguments => lit "unrecognized arguments: " ++ Text.joinWith (lit " ") arguments

end Complaint

/-- What an argument is taken for. -/
inductive Argument where
  | plain (t : Text)
  /-- A switch, and the value attached to it. -/
  | switch (s : Switch) (attached : Option Text)
  /-- The short spelling of help, and what stands right behind it. -/
  | shortHelp (behind : Text)
  /-- Looks like a switch, or is the mark behind which no switches are looked for. -/
  | other (t : Text)

def dash : CodePoint := .scalar '-'
def equalsSign : CodePoint := .scalar '='

/-- The mark behind which every argument is plain. -/
def endMark : Text := [dash, dash]

/-- A minus sign before digits, or before a point among digits with digits behind it. A line feed
may follow. -/
def isNegativeNumber (t : Text) : Bool :=
  match t with
  | .scalar '-' :: body =>
    let body := Text.dropFinalNewline body
    match body.dropWhile (·.decimal?.isSome) with
    | [] => !body.isEmpty
    | .scalar '.' :: places => !places.isEmpty && places.all (·.decimal?.isSome)
    | _ => false
  | _ => false

/-- The switches whose spellings a long argument abbreviates, with the value attached to it. -/
def abbreviated (t : Text) : List (Text × Switch) × Option Text :=
  let (start, attached) := t.cutAt equalsSign
  (Switch.spellings.filter fun (spelling, _) => spelling.startsWith start, attached)

/-- What an argument is taken for while the mark has not been met. -/
def classify (t : Text) : Except Complaint Argument :=
  let unmatched : Argument :=
    if isNegativeNumber t || t.contains (.scalar ' ') then .plain t else .other t
  match t with
  | .scalar '-' :: .scalar '-' :: _ =>
    match member? t Switch.spellings with
    | some s => .ok (.switch s none)
    | none =>
      let (found, attached) := abbreviated t
      match member? (t.cutAt equalsSign).1 found, found with
      | some s, _ => .ok (.switch s attached)
      | none, [] => .ok unmatched
      | none, [(_, s)] => .ok (.switch s attached)
      | none, _ => .error (.ambiguous t (found.map (·.1)))
  | .scalar '-' :: .scalar 'h' :: behind => .ok (.shortHelp behind)
  | .scalar '-' :: _ :: _ => .ok unmatched
  | _ => .ok (.plain t)

/-- What every argument is taken for. -/
def classifyAll : List Text → Except Complaint (List Argument)
  | [] => .ok []
  | t :: rest =>
    if t = endMark then .ok (.other t :: rest.map .plain)
    else do
      let first ← classify t
      return first :: (← classifyAll rest)

/-- What the arguments settle. The mark attached to a switch takes its value away. -/
structure Options where
  transport : Option Text
  host : Option Text
  portNumber : Option Int

namespace Options

def ofSettings (settings : Settings) : Options :=
  ⟨some settings.transport, some settings.host, some settings.portNumber⟩

def transports : List Text := [lit "stdio", lit "sse"]

/-- The options with a value given to a switch; help takes none. -/
def give (options : Options) (switch : Switch) (value : Text) : Except Complaint Options :=
  let isMark := value = endMark
  match switch with
  | .help => .error (.valueIgnored .help value)
  | .transport =>
    if isMark then .ok { options with transport := none }
    else if transports.contains value then .ok { options with transport := some value }
    else .error (.notChoice .transport value transports)
  | .host => .ok { options with host := if isMark then none else some value }
  | .portNumber =>
    if isMark then .ok { options with portNumber := none }
    else match Numeral.readSetting value with
      | .ok n => .ok { options with portNumber := some n }
      | .error _ => .error (.notInteger .portNumber value)

end Options

/-- The end of reading the arguments without a complaint. -/
inductive Request where
  | help
  | start (options : Options)

/-- Whether code points stand for short spellings of help, all of them; the first that does not
is refused with what follows it. -/
def askForHelp : Text → Except Complaint Request
  | [] => .ok .help
  | c :: rest =>
    if c = .scalar 'h' then askForHelp rest
    else .error (.valueIgnored .help (c :: rest))

/-- Help asked for by its short spelling, with the code points behind it. An equals sign right
behind it makes the rest a value, and an empty value is refused. -/
def askBriefly : Text → Except Complaint Request
  | [] => .ok .help
  | c :: rest =>
    if c = equalsSign then
      if rest.isEmpty then .error (.valueIgnored .help []) else askForHelp rest
    else askForHelp (c :: rest)

/-- Acts on classified arguments; `others` collects those that belong to no option. -/
def settle (options : Options) (others : List Text) : List Argument → Except Complaint Request
  | [] => if others.isEmpty then .ok (.start options) else .error (.unrecognized others)
  | .plain t :: rest => settle options (others ++ [t]) rest
  | .other t :: rest => settle options (others ++ [t]) rest
  | .shortHelp behind :: _ => askBriefly behind
  | .switch .help none :: _ => .ok .help
  | .switch s (some value) :: rest => do settle (← options.give s value) others rest
  | .switch s none :: .plain value :: rest => do settle (← options.give s value) others rest
  | .switch s none :: _ => .error (.valueExpected s)

/-- What the arguments ask for. -/
def read (settings : Settings) (arguments : List Text) : Except Complaint Request := do
  settle (.ofSettings settings) [] (← classifyAll arguments)

end Formwright.CommandLine
