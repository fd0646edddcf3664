import Formwright.Surface.Tool

/-!
The playground page: a text and a flag in, a status line and the four texts of a
component out. When there is no component the four texts are empty.
-/

namespace Formwright

/-- What the page shows after a run. -/
structure Page where
  status : Text
  template : Text
  script : Text
  style : Text
  singleFile : Text

namespace Page

def crossMark : Text := lit "❌ "

/-- A page that only reports. -/
def report (message : Text) : Page :=
  ⟨crossMark ++ message, [], [], [], []⟩

def ofComponent (count : Nat) (c : Component) : Page :=
  ⟨lit "## ✅ Generated component with " ++ Text.ofNat count ++ lit " fields",
    c.template, c.script, c.style, c.singleFile⟩

def texts (page : Page) : List Text :=
  [page.status, page.template, page.script, page.style, page.singleFile]

end Page

namespace Playground

/-- A rejection inside a code fence. -/
def rejectionReport (r : Rejection) : Text :=
  lit "Invalid field descriptor:\n```\n" ++ r.report ++ lit "\n```"

/-- The page for a text of descriptors. Only syntax and rejected descriptors are reported on the
page; an integer past the limit ends the run. -/
def run (document : Text) (includeStyle : Bool) : Except Failure Page :=
  if document.isBlank then .ok (.report (lit "Please enter at least one field descriptor"))
  else
    match Json.read document with
    | .error (.malformed complaint document position) =>
      .ok (.report (lit "Invalid JSON: " ++
        (Json.ReadError.malformed complaint document position).message))
    | .error e => .error (.unreadable e)
    | .ok (.array items) =>
      match Descriptors.component (Value.ofJson (.array items)) includeStyle with
      | .ok c => .ok (.ofComponent items.length c)
      | .error (.rejected r) => .ok (.report (rejectionReport r))
      | .error failure => .error failure
    | .ok _ => .ok (.report Tool.notArrayMessage)

/-- The page for any value in place of the text. -/
def runValue (document : Value) (includeStyle : Bool) : Except Failure Page :=
  match document with
  | .text t => run t includeStyle
  | v => .error (.fault (.noAttribute v.fullTypeName (lit "strip")))

end Playground

end Formwright
