import Formwright.Mcp.Tools
import Formwright.Proofs.Component.Built
import Formwright.Proofs.Json.Nesting
import Formwright.Proofs.Json.Written
import Formwright.Proofs.Reading.Decoded
import Formwright.Surface.Playground

/-!
The text tool next to the other surfaces. Its answer can always be read back, and
what it says of a document is what a client is told who calls with the descriptors
of that document, and what the playground page shows for it. Only a width of
indentation that cannot be written keeps a component from being answered.
-/

namespace Formwright

open Text (IsScalar IsSettled)

namespace Component

/-- Descriptors of a decoded document that are accepted make a component. -/
theorem exists_build_of_decoded {items : List Item} {documents : List Json}
    (h : Describes documents items) (hdecoded : ∀ item ∈ items, item.IsDecoded)
    (includeStyle : Bool) : ∃ c, build items includeStyle = .ok c := by
  rw [exists_build_iff_of_describes h]
  exact fun item hitem => (hdecoded item hitem).numbersFit

theorem isSettled_exports {items : List Item} {includeStyle : Bool} {c : Component}
    (hc : build items includeStyle = .ok c) (hdecoded : ∀ item ∈ items, item.IsDecoded) :
    ∀ member ∈ c.exports, member.2.IsSettled := by
  have hclosed := exports_generated Text.Framing.settled Text.isClosed_newline hc
    fun item hitem => (hdecoded item hitem).isSettled_texts
  exact fun member hmember => (hclosed member hmember).settled

end Component

namespace Json

/-- The document that says what is wrong. -/
def errorObject (message : Text) : Json :=
  .object [(lit "error", .bool true), (lit "message", .text message)]

theorem read_ofTexts {layout : Layout} (h : layout.IsReadable) {members : List (Text × Text)}
    (hnames : (members.map Prod.fst).Nodup)
    (hsettled : ∀ member ∈ members, member.1.IsSettled ∧ member.2.IsSettled) :
    read (write layout (.ofTexts members)) = .ok (.ofTexts members) := by
  apply read_write h
  · rw [List.map_map]
    exact hnames
  · rw [List.forall_mem_map]
    exact hsettled

/-- A component that is written, however wide its indentation, is read as it was. -/
theorem read_exports {layout : Layout} (h : layout.IsReadable) {c : Component}
    (hsettled : ∀ member ∈ c.exports, member.2.IsSettled) :
    read (write layout (.ofTexts c.exports)) = .ok (.ofTexts c.exports) := by
  have hnames : c.exports.map Prod.fst = [lit "template", lit "script", lit "style", lit "sfc"] :=
    rfl
  apply read_ofTexts h
  · rw [hnames]
    decide
  · intro member hmember
    refine ⟨?_, hsettled member hmember⟩
    have hname : member.1 ∈ c.exports.map Prod.fst := List.mem_map_of_mem hmember
    rw [hnames] at hname
    have hscalar : ∀ name ∈ [lit "template", lit "script", lit "style", lit "sfc"],
        name.IsScalar := by
      simp only [List.forall_mem_cons]
      exact ⟨Text.isScalar_lit _, Text.isScalar_lit _, Text.isScalar_lit _, Text.isScalar_lit _,
        by simp⟩
    exact (hscalar member.1 hname).isSettled

theorem read_errorDocument {message : Text} (h : message.IsSettled) :
    read (Tool.errorDocument message) = .ok (errorObject message) := by
  apply read_write Layout.isReadable_oneLine
  · show [lit "error", lit "message"].Nodup
    decide
  · have herror := (Text.isScalar_lit "error").isSettled
    have hmessage := (Text.isScalar_lit "message").isSettled
    exact List.forall_mem_cons.mpr ⟨⟨herror, trivial⟩, List.forall_mem_singleton.mpr ⟨hmessage, h⟩⟩

end Json

theorem Settings.isReadable_layout {settings : Settings} {layout : Json.Layout}
    (h : settings.layout = .ok layout) : layout.IsReadable := by
  rw [Settings.layout] at h
  split at h
  · cases h
  · split at h
    · cases h
    · cases h
      exact Json.Layout.isReadable_indented settings.indent

/-- A call with the descriptors of a document. -/
def Mcp.callForm (documents : List Json) (includeStyle : Bool) :
    Except Failure (List (Text × Text)) :=
  call (.text formToolName)
    (.object [(lit "fields", .list (valuesOfJson documents)),
      (lit "include_style", .bool includeStyle)])

theorem Mcp.callForm_eq (documents : List Json) (includeStyle : Bool) :
    callForm documents includeStyle =
      match Descriptors.component (.list (valuesOfJson documents)) includeStyle with
      | .ok c => .ok c.exports
      | .error (.rejected r) => .ok (errorResult r.report)
      | .error failure => .error failure :=
  rfl

theorem Playground.run_eq {document : Text} {documents : List Json}
    (h : Json.read document = .ok (.array documents)) (includeStyle : Bool) :
    run document includeStyle =
      match Descriptors.component (.list (valuesOfJson documents)) includeStyle with
      | .ok c => .ok (.ofComponent documents.length c)
      | .error (.rejected r) => .ok (.report (rejectionReport r))
      | .error failure => .error failure := by
  rw [run, Json.not_isBlank_of_read h, h]
  rfl

namespace Tool

/-- Whether a text spells an array of descriptors that are all accepted. -/
def Accepts (document : Text) : Prop :=
  ∃ documents parsed, Json.read document = .ok (.array documents) ∧
    readDescriptors (valuesOfJson documents) = .ok parsed

/-- Whether an answer to a document can be read, and says what the other surfaces say. -/
structure Agrees (document : Text) (includeStyle : Bool) (answer : Text) : Prop where
  readable : (∃ c : Component, Json.read answer = .ok (.ofTexts c.exports)) ∨
    ∃ message, Json.read answer = .ok (Json.errorObject message)
  component_iff : (∃ c : Component, Json.read answer = .ok (.ofTexts c.exports)) ↔
    Accepts document
  accepted : ∀ documents parsed, Json.read document = .ok (.array documents) →
    readDescriptors (valuesOfJson documents) = .ok parsed →
      ∃ c page, Json.read answer = .ok (.ofTexts (Component.exports c)) ∧
        Mcp.callForm documents includeStyle = .ok c.exports ∧
        Playground.run document includeStyle = .ok page ∧
        page.texts.tail = c.exports.map Prod.snd
  rejected : ∀ documents r, Json.read document = .ok (.array documents) →
    readDescriptors (valuesOfJson documents) = .error r →
      Json.read answer = .ok (Json.errorObject r.report) ∧
        Mcp.callForm documents includeStyle = .ok (Mcp.errorResult r.report) ∧
        Playground.run document includeStyle = .ok (.report (Playground.rejectionReport r))

section

variable {document : Text} {documents : List Json} {includeStyle : Bool}

theorem not_component_of_error {answer message : Text}
    (h : Json.read answer = .ok (Json.errorObject message)) :
    ¬ ∃ c : Component, Json.read answer = .ok (.ofTexts c.exports) := by
  rintro ⟨c, hc⟩
  rw [h] at hc
  have hlength := congrArg List.length (Json.object.inj (Except.ok.inj hc))
  cases hlength

theorem not_accepts_of_not_array
    (h : ∀ documents, Json.read document ≠ .ok (.array documents)) : ¬ Accepts document := by
  rintro ⟨documents, parsed, hread, -⟩
  exact h documents hread

theorem not_accepts_of_rejected {r : Rejection}
    (hread : Json.read document = .ok (.array documents))
    (hr : readDescriptors (valuesOfJson documents) = .error r) : ¬ Accepts document := by
  rintro ⟨documents', parsed, hread', hparsed⟩
  obtain rfl := Json.array.inj (Except.ok.inj (hread.symm.trans hread'))
  rw [hr] at hparsed
  cases hparsed

/-- An answer to what is no array only has to say something. -/
theorem agrees_of_not_array {answer message : Text}
    (hanswer : Json.read answer = .ok (Json.errorObject message))
    (h : ∀ documents, Json.read document ≠ .ok (.array documents)) :
    Agrees document includeStyle answer where
  readable := .inr ⟨message, hanswer⟩
  component_iff := iff_of_false (not_component_of_error hanswer) (not_accepts_of_not_array h)
  accepted documents _ hread := absurd hread (h documents)
  rejected documents _ hread := absurd hread (h documents)

theorem agrees_of_rejected {answer : Text} {r : Rejection}
    (hread : Json.read document = .ok (.array documents))
    (hr : readDescriptors (valuesOfJson documents) = .error r)
    (hanswer : Json.read answer = .ok (Json.errorObject r.report)) :
    Agrees document includeStyle answer := by
  have hcomponent := @Descriptors.component_of_rejected documents includeStyle r hr
  have hrefused := not_accepts_of_rejected hread hr
  constructor
  case readable => exact .inr ⟨_, hanswer⟩
  case component_iff => exact iff_of_false (not_component_of_error hanswer) hrefused
  case accepted =>
    intro documents' parsed hread' hparsed
    exact absurd ⟨documents', parsed, hread', hparsed⟩ hrefused
  case rejected =>
    intro documents' r' hread' hr'
    rw [hread] at hread'
    cases hread'
    rw [hr] at hr'
    cases hr'
    refine ⟨hanswer, ?_, ?_⟩
    · rw [Mcp.callForm_eq, hcomponent]
    · rw [Playground.run_eq hread, hcomponent]

theorem agrees_of_accepted {answer : Text} {items : List Item} {c : Component}
    (hread : Json.read document = .ok (.array documents)) (hitems : Describes documents items)
    (hc : Component.build items includeStyle = .ok c)
    (hanswer : Json.read answer = .ok (.ofTexts c.exports)) :
    Agrees document includeStyle answer := by
  have hcomponent := Descriptors.component_of_describes hitems hc
  constructor
  case readable => exact .inl ⟨c, hanswer⟩
  case component_iff => exact iff_of_true ⟨c, hanswer⟩ ⟨documents, _, hread, hitems⟩
  case accepted =>
    intro documents' parsed hread' hparsed
    rw [hread] at hread'
    cases hread'
    refine ⟨c, .ofComponent documents.length c, hanswer, ?_, ?_, rfl⟩
    · rw [Mcp.callForm_eq, hcomponent]
    · rw [Playground.run_eq hread, hcomponent]
  case rejected =>
    intro documents' r hread' hr
    rw [hread] at hread'
    cases hread'
    rw [Describes, hr] at hitems
    cases hitems

theorem component_of_array (hread : Json.read document = .ok (.array documents)) :
    Tool.component document includeStyle =
      (Descriptors.component (.list (valuesOfJson documents)) includeStyle).map some := by
  rw [Tool.component, hread]
  rfl

/-- The answer to accepted descriptors, as far as it can be written. -/
theorem answer_of_component (settings : Settings) {c : Component}
    (hread : Json.read document = .ok (.array documents))
    (hc : Descriptors.component (.list (valuesOfJson documents)) includeStyle = .ok c) :
    Tool.answer settings document includeStyle =
      (settings.layout.map fun layout => Json.write layout (.ofTexts c.exports)).mapError .fault := by
  rw [Tool.answer, component_of_array hread, hc]
  cases hlayout : settings.layout with
  | error fault => simp [Except.map, componentDocument, textsDocument, hlayout, bind, Except.bind]
  | ok layout =>
    simp [Except.map, componentDocument, textsDocument, hlayout, bind, Except.bind, pure,
      Except.pure]

theorem answer_of_failure (settings : Settings) {failure : Failure}
    (h : Tool.component document includeStyle = .error failure)
    (hreported : isReported failure = true) :
    Tool.answer settings document includeStyle = .ok (errorDocument failure.message) := by
  rw [Tool.answer, h]
  simp only [hreported, if_true]

/-- The answer to a text that cannot be read, unless it is nested too deep. -/
theorem answer_agrees_of_unreadable (settings : Settings) {e : Json.ReadError}
    (hread : Json.read document = .error e) (hdeep : e ≠ .tooDeep) :
    ∃ answer, Tool.answer settings document includeStyle = .ok answer ∧
      Agrees document includeStyle answer := by
  have hcomponent : Tool.component document includeStyle = .error (.unreadable e) := by
    rw [Tool.component, hread]
    rfl
  have hreported : isReported (.unreadable e) = true := by
    cases e with
    | malformed | numeralTooLong => rfl
    | tooDeep => exact absurd rfl hdeep
  have hanswer := Json.read_errorDocument (Json.isScalar_message e).isSettled
  refine ⟨_, answer_of_failure settings hcomponent hreported, agrees_of_not_array hanswer ?_⟩
  intro documents hdocuments
  rw [hread] at hdocuments
  cases hdocuments

/-- The answer to a document that is no array. -/
theorem answer_agrees_of_not_array (settings : Settings) {j : Json}
    (hread : Json.read document = .ok j) (hj : ∀ documents, j ≠ .array documents) :
    ∃ answer, Tool.answer settings document includeStyle = .ok answer ∧
      Agrees document includeStyle answer := by
  have hanswer := Json.read_errorDocument (Text.isScalar_lit
    "Expected a JSON array of field descriptors").isSettled
  refine ⟨errorDocument notArrayMessage, ?_, agrees_of_not_array hanswer ?_⟩
  · rw [Tool.answer, Tool.component, hread]
    cases j with
    | array documents => exact absurd rfl (hj documents)
    | null | bool | int | float | text | object => rfl
  · intro documents hdocuments
    rw [hread] at hdocuments
    exact hj documents (Except.ok.inj hdocuments)

/-- What holds of the answer to descriptors, accepted or not. -/
theorem answer_agrees_of_array (settings : Settings)
    (hread : Json.read document = .ok (.array documents))
    (hdecoded : (Json.array documents).IsDecoded) :
    (∃ answer, Tool.answer settings document includeStyle = .ok answer ∧
      Agrees document includeStyle answer) ∨
    (Accepts document ∧ ∃ fault, settings.layout = .error fault ∧
      Tool.answer settings document includeStyle = .error (.fault fault)) := by
  have hdocuments : ∀ j ∈ documents, j.IsDecoded := by
    cases hdecoded with
    | array h => exact h
  obtain ⟨hitems, hreports⟩ := readDescriptors_decoded hdocuments
  cases hparsed : readDescriptors (valuesOfJson documents) with
  | error r =>
    have hfailure := @Descriptors.component_of_rejected documents includeStyle r hparsed
    have hcomponent : Tool.component document includeStyle = .error (.rejected r) := by
      rw [component_of_array hread, hfailure]
      rfl
    have hanswer := Json.read_errorDocument (hreports r hparsed)
    exact .inl ⟨_, answer_of_failure settings hcomponent rfl,
      agrees_of_rejected hread hparsed hanswer⟩
  | ok parsed =>
    obtain ⟨items, rfl, hdescribes⟩ := exists_describes hparsed
    have hall := hitems items hdescribes
    obtain ⟨c, hc⟩ := Component.exists_build_of_decoded hdescribes hall includeStyle
    have hanswer := answer_of_component settings hread (Descriptors.component_of_describes hdescribes hc)
    cases hlayout : settings.layout with
    | error fault =>
      rw [hlayout] at hanswer
      exact .inr ⟨⟨documents, _, hread, hparsed⟩, fault, rfl, hanswer⟩
    | ok layout =>
      rw [hlayout] at hanswer
      have hreadable := Settings.isReadable_layout hlayout
      have hexports := Json.read_exports hreadable (Component.isSettled_exports hc hall)
      exact .inl ⟨_, hanswer, agrees_of_accepted hread hdescribes hc hexports⟩

end

/-- The tool answers every text of scalar values that is not nested past the limit, and the answer
agrees with the other surfaces, unless the descriptors are accepted and the settings ask for an
indentation that cannot be written. -/
theorem answer_agrees (settings : Settings) {document : Text} (hscalar : document.IsScalar)
    (hnesting : document.nesting ≤ Json.Limits.usual.nesting) (includeStyle : Bool) :
    (∃ answer, Tool.answer settings document includeStyle = .ok answer ∧
      Agrees document includeStyle answer) ∨
    (Accepts document ∧ ∃ fault, settings.layout = .error fault ∧
      Tool.answer settings document includeStyle = .error (.fault fault)) := by
  cases hread : Json.read document with
  | error e =>
    have hdeep : e ≠ .tooDeep := by
      rintro rfl
      exact Json.readWithin_ne_tooDeep hnesting hread
    exact .inl (answer_agrees_of_unreadable settings hread hdeep)
  | ok j =>
    cases j with
    | array documents =>
      have hdecoded := Json.isDecoded_of_read hread hscalar
      exact answer_agrees_of_array settings hread hdecoded
    | null | bool | int | float | text | object =>
      exact .inl (answer_agrees_of_not_array settings hread nofun)

/-- A field whose label and name are the two halves of one code point. -/
def halvesDocument : Text :=
  lit "[\x7b\"id\": 1, \"type\": \"input\", \"label\": \"\\ud83d\", \"field\": \"\\ude00\"\x7d]"

/-- The halves are answered apart, under a width below zero. -/
theorem answer_agrees_halves :
    halvesDocument.IsScalar ∧ halvesDocument.nesting ≤ Json.Limits.usual.nesting ∧
      ∃ answer, Tool.answer { Settings.default with indent := -1 } halvesDocument true =
          .ok answer ∧
        Agrees halvesDocument true answer ∧
        ∃ c : Component, Json.read answer = .ok (.ofTexts c.exports) := by
  have hscalar : halvesDocument.IsScalar := Text.isScalar_lit _
  have hnesting : halvesDocument.nesting ≤ Json.Limits.usual.nesting := by decide +kernel
  have hread : Json.read halvesDocument = .ok (.array [.object
      [(lit "id", .int 1), (lit "type", .text (lit "input")),
        (lit "label", .text [.surrogate 0x3d]), (lit "field", .text [.surrogate 0x600])]]) := by
    cbv
  have haccepts : Accepts halvesDocument := ⟨_, _, hread, rfl⟩
  refine ⟨hscalar, hnesting, ?_⟩
  rcases answer_agrees { Settings.default with indent := -1 } hscalar hnesting true with
    ⟨answer, hanswer, hagrees⟩ | ⟨-, fault, hfault, -⟩
  · exact ⟨answer, hanswer, hagrees, hagrees.component_iff.mpr haccepts⟩
  · cases hfault

/-- Below all machine words no indentation can be written, not even for a form without fields. -/
theorem no_answer_below_words :
    (lit "[]").IsScalar ∧ (lit "[]").nesting ≤ Json.Limits.usual.nesting ∧
      Tool.answer { Settings.default with indent := -9223372036854775809 } (lit "[]") true =
        .error (.fault .widthNotWord) := by
  refine ⟨Text.isScalar_lit "[]", by decide +kernel, ?_⟩
  have hread : Json.read (lit "[]") = .ok (.array []) := rfl
  have hlayout : Settings.layout { Settings.default with indent := -9223372036854775809 } =
      .error .widthNotWord := rfl
  have hitems : Describes [] [] := rfl
  obtain ⟨c, hc⟩ := Component.exists_build_of_decoded hitems (by simp) true
  rw [answer_of_component _ hread (Descriptors.component_of_describes hitems hc), hlayout]
  rfl

end Tool

end Formwright
