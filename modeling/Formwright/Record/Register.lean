import Formwright.Descriptors
import Formwright.Record.Feature

/-!
A register of named records and the commands on it. A command that fails leaves
the register as it was. Each attribute of a record is dated by the command that
gave it: copying and reading again keep the date of an attribute whose value they
keep, so equal dates mean that two records hold one and the same value.
-/

namespace Formwright

structure Register.Entry where
  record : Record
  dates : List (Text × Nat)

structure Register where
  entries : List (Text × Register.Entry)
  /-- The date of the next attributes. -/
  date : Nat

namespace Register

/-- A descriptor that a command reads: a record by its name, or a value. -/
inductive Descriptor where
  | named (name : Text)
  | value (v : Value)

/-- What is written of a single record. -/
inductive Product where
  | dump
  | rendering
  | template
  | script
  | singleFile
  | exports
  deriving DecidableEq

inductive Command where
  | build (name className : Text) (fields : Value)
  /-- Reads descriptors and gives names to the results in order. -/
  | read (descriptors : List Descriptor) (names : List Text)
  | compare (name other : Text)
  | assign (name key : Text) (value : Value)
  | delete (name key : Text)
  | get (name key : Text)
  | copy (name into : Text) (update : List (Text × Value))
  | write (product : Product) (name : Text)
  /-- A command that the register does not have. -/
  | unheardOf (word : Text)

inductive Outcome where
  | record (r : Record)
  /-- Each result of a reading, and whether it passed through unchanged. -/
  | read (results : List (Bool × Record))
  | answer (b : Bool)
  | value (v : Value)
  | feature (f : Record.Feature)
  | rendering (r : Rendering)

def empty : Register := ⟨[], 0⟩

def entry (register : Register) (name : Text) : Except Failure Entry :=
  match member? name register.entries with
  | some entry => .ok entry
  | none => .error (.unknownName name)

def put (register : Register) (name : Text) (entry : Entry) : Register :=
  { register with entries := putMember name entry register.entries }

namespace Entry

/-- A record whose attributes all have one date. -/
def dated (date : Nat) (record : Record) : Entry :=
  ⟨record, record.attributes.map fun (name, _) => (name, date)⟩

/-- Whether an attribute of two entries is one and the same value. -/
def shares (e f : Entry) (name : Text) : Bool :=
  (member? name e.dates).isSome && member? name e.dates == member? name f.dates

def sameAs (e f : Entry) : Bool :=
  e.record.sameAs (e.shares f) f.record

def copy (e : Entry) (date : Nat) (update : List (Text × Value)) : Entry :=
  ⟨e.record.copy update, update.foldl (fun dates (name, _) => putMember name date dates) e.dates⟩

/-- A record read from the fields of an entry; an attribute with a new value has a new date. -/
def readAgain (e : Entry) (date : Nat) (record : Record) : Entry :=
  ⟨record, record.attributes.map fun (name, value) =>
    match member? name (e.record.attributes), member? name e.dates with
    | some old, some oldDate =>
      let isKept := (Record.dumpField name value).sameAs true (Record.dumpField name old)
      (name, if isKept then oldDate else date)
    | _, _ => (name, date)⟩

end Entry

/-- A descriptor with the entry it stands for, if it goes by a name. -/
def Descriptor.source (register : Register) : Descriptor → Except Failure (Source × Option Entry)
  | named name => do
    let entry ← register.entry name
    return (.record entry.record, some entry)
  | value v => .ok (.value v, none)

/-- The entry of what was read from a descriptor. -/
def entryOf (date : Nat) (origin : Option Entry) : Parsed → Entry
  | .kept record => origin.getD (.dated date record)
  | .fresh item =>
    let record := Record.ofModel (.item item)
    match origin with
    | some entry => entry.readAgain date record
    | none => .dated date record

def entriesOf : (date : Nat) → List (Option Entry × Parsed) → List Entry
  | _, [] => []
  | date, (origin, parsed) :: rest => entryOf date origin parsed :: entriesOf (date + 1) rest

def isKept : Parsed → Bool
  | .kept _ => true
  | .fresh _ => false

def frozen (record : Record) (key : Text) (input : Value) : Failure :=
  .rejected ⟨record.cls.name, [⟨[.key key], .frozen, input⟩]⟩

def product (record : Record) : Product → Except Fault Outcome
  | .dump => .ok (.value record.dump)
  | .rendering => .ok (.rendering record.toSubject.rendering)
  | .template => do return .value (.text (← Parsed.templateOf [.kept record]))
  | .script => do return .value (.text (← Parsed.scriptOf [.kept record]))
  | .singleFile => do return .value (.text (← record.singleFile))
  | .exports => do return .value (.object (← record.exports))

/-- The register after a command, and the outcome. -/
def perform (register : Register) : Command → Except Failure (Register × Outcome)
  | .build name className fields => do
    match RecordClass.ofName? className with
    | none => throw (.unknownName className)
    | some cls =>
      let model ← (Model.build cls fields).mapError .rejected
      let record := Record.ofModel model
      return (register.put name (.dated register.date record), .record record)
  | .read descriptors names => do
    let sources ← descriptors.mapM (·.source register)
    let parsed ← (readSources (sources.map (·.1))).mapError .rejected
    let entries := entriesOf register.date ((sources.map (·.2)).zip parsed)
    let register := (names.zip entries).foldl (fun register (name, entry) => register.put name entry)
      register
    return ({ register with date := register.date + entries.length },
      .read ((parsed.map isKept).zip (entries.map (·.record))))
  | .compare name other => do
    return (register, .answer ((← register.entry name).sameAs (← register.entry other)))
  | .assign name key value => do
    throw (frozen (← register.entry name).record key value)
  | .delete name key => do
    let record := (← register.entry name).record
    throw (frozen record key ((member? key record.attributes).getD .null))
  | .get name key => do
    let record := (← register.entry name).record
    match record.feature? key with
    | some feature => return (register, .feature feature)
    | none => throw (.fault (.noAttribute record.cls.name key))
  | .copy name into update => do
    let entry := (← register.entry name).copy register.date update
    return (register.put into entry, .record entry.record)
  | .write product name => do
    let outcome ← (Register.product (← register.entry name).record product).mapError .fault
    return (register, outcome)
  | .unheardOf word => throw (.unknownName word)

/-- The register after a command, and what came of it. -/
def step (register : Register) (command : Command) : Register × Except Failure Outcome :=
  match register.perform command with
  | .ok (next, outcome) => ({ next with date := next.date + 1 }, .ok outcome)
  | .error failure => (register, .error failure)

end Register

end Formwright
