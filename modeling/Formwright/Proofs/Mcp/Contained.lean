import Formwright.Mcp.Tools
import Formwright.Proofs.Component.Built

/-!
What becomes of a call by name. Whatever the name and the arguments are, a call is
answered with an object of texts, and what is wrong is told in it; with one
exception. Descriptors that are accepted but hold an integer past the limit end
the call, where the text tool reports them.
-/

namespace Formwright.Mcp

/-- Whether the arguments of a call ask for the style. Any value counts that is true. -/
def wantsStyle (arguments : List (Text × Json)) : Bool :=
  ((member? (lit "include_style") (membersOfJson arguments)).map Value.isTrue).getD true

/-- What a call is answered with. -/
inductive Answers (name : Text) (arguments : List (Text × Json)) : List (Text × Text) → Prop
  | component {documents : List Json} {items : List Item} {c : Component}
      (hname : name = formToolName)
      (hfields : member? (lit "fields") arguments = some (.array documents))
      (hitems : Describes documents items)
      (hc : Component.build items (wantsStyle arguments) = .ok c) :
      Answers name arguments [(lit "template", c.template), (lit "script", c.script),
        (lit "style", c.style), (lit "sfc", c.singleFile)]
  | rejected {documents : List Json} {r : Rejection} (hname : name = formToolName)
      (hfields : member? (lit "fields") arguments = some (.array documents))
      (hr : readDescriptors (valuesOfJson documents) = .error r) :
      Answers name arguments [(lit "error", r.report)]
  | notArray (hname : name = formToolName)
      (hfields : ∀ documents, member? (lit "fields") arguments ≠ some (.array documents)) :
      Answers name arguments
        [(lit "error", lit "'fields' must be an array of field descriptors")]
  | style (hname : name = styleToolName) : Answers name arguments [(lit "style", Style.build)]
  | unknown (hform : name ≠ formToolName) (hstyle : name ≠ styleToolName) :
      Answers name arguments [(lit "error", lit "Unknown tool: " ++ name)]

/-- Whether a call is for the component of descriptors that are accepted and hold an integer past
the limit, in a place where it would be written. -/
def IsTooLong (name : Text) (arguments : List (Text × Json)) : Prop :=
  name = formToolName ∧ ∃ documents items,
    member? (lit "fields") arguments = some (.array documents) ∧ Describes documents items ∧
      ∃ item ∈ items, ¬ item.NumbersFit

section

variable {arguments : List (Text × Json)} {documents : List Json}

theorem call_of_array (h : member? (lit "fields") arguments = some (.array documents)) :
    call (.text formToolName) (Value.ofJson (.object arguments)) =
      match Descriptors.component (.list (valuesOfJson documents)) (wantsStyle arguments) with
      | .ok c => .ok c.exports
      | .error (.rejected r) => .ok (errorResult r.report)
      | .error failure => .error failure := by
  have hfields : member? (lit "fields") (membersOfJson arguments) =
      some (.list (valuesOfJson documents)) := member?_ofJson h
  rw [call, if_pos rfl, Value.ofJson, callFormTool, hfields]
  rfl

theorem call_of_not_array
    (h : ∀ documents, member? (lit "fields") arguments ≠ some (.array documents)) :
    call (.text formToolName) (Value.ofJson (.object arguments)) =
      .ok [(lit "error", lit "'fields' must be an array of field descriptors")] := by
  have hfields : ∀ fields, member? (lit "fields") (membersOfJson arguments) ≠
      some (.list fields) := by
    intro fields hlist
    rw [member?_membersOfJson] at hlist
    obtain ⟨j, hj, hvalue⟩ := Option.map_eq_some_iff.mp hlist
    cases j with
    | array documents => exact h documents hj
    | null | bool | int | float | text | object => cases hvalue
  rw [call, if_pos rfl, Value.ofJson, callFormTool]
  split
  · rename_i fields hlist
    exact absurd hlist (hfields fields)
  · rfl

theorem call_of_describes {items : List Item} {c : Component}
    (hfields : member? (lit "fields") arguments = some (.array documents))
    (hitems : Describes documents items)
    (hc : Component.build items (wantsStyle arguments) = .ok c) :
    call (.text formToolName) (Value.ofJson (.object arguments)) =
      .ok [(lit "template", c.template), (lit "script", c.script), (lit "style", c.style),
        (lit "sfc", c.singleFile)] := by
  rw [call_of_array hfields, Descriptors.component_of_describes hitems hc]
  rfl

theorem call_of_rejected {r : Rejection}
    (hfields : member? (lit "fields") arguments = some (.array documents))
    (hr : readDescriptors (valuesOfJson documents) = .error r) :
    call (.text formToolName) (Value.ofJson (.object arguments)) =
      .ok [(lit "error", r.report)] := by
  rw [call_of_array hfields, Descriptors.component_of_rejected hr]
  rfl

theorem call_of_tooLong (h : IsTooLong formToolName arguments) :
    call (.text formToolName) (Value.ofJson (.object arguments)) =
      .error (.fault .numeralTooLong) := by
  obtain ⟨-, documents, items, hfields, hitems, htooLong⟩ := h
  rw [call_of_array hfields, Descriptors.component_of_tooLong hitems htooLong]

/-- A call for a component is answered unless it holds an integer past the limit. -/
theorem answers_form (arguments : List (Text × Json))
    (h : ¬ IsTooLong formToolName arguments) :
    ∃ answer, call (.text formToolName) (Value.ofJson (.object arguments)) = .ok answer ∧
      Answers formToolName arguments answer := by
  by_cases harray : ∃ documents, member? (lit "fields") arguments = some (.array documents)
  · obtain ⟨documents, hfields⟩ := harray
    cases hread : readDescriptors (valuesOfJson documents) with
    | error r => exact ⟨_, call_of_rejected hfields hread, .rejected rfl hfields hread⟩
    | ok parsed =>
      obtain ⟨items, -, hitems⟩ := exists_describes hread
      rcases Component.build_or_tooLong hitems (wantsStyle arguments) with ⟨c, hc⟩ | ⟨hlong, -⟩
      · exact ⟨_, call_of_describes hfields hitems hc, .component rfl hfields hitems hc⟩
      · exact absurd ⟨rfl, documents, items, hfields, hitems, hlong⟩ h
  · rw [not_exists] at harray
    exact ⟨_, call_of_not_array harray, .notArray rfl harray⟩

end

/-- Every call by name with an object of arguments is answered, whatever they hold, but for one that
holds an integer past the limit: that call fails with the limit. -/
theorem call_answers_or_tooLong (name : Text) (arguments : List (Text × Json)) :
    (¬ IsTooLong name arguments ∧
      ∃ answer, call (.text name) (Value.ofJson (.object arguments)) = .ok answer ∧
        Answers name arguments answer) ∨
    (IsTooLong name arguments ∧
      call (.text name) (Value.ofJson (.object arguments)) = .error (.fault .numeralTooLong)) := by
  by_cases hlong : IsTooLong name arguments
  · obtain rfl := hlong.1
    exact .inr ⟨hlong, call_of_tooLong hlong⟩
  · refine .inl ⟨hlong, ?_⟩
    by_cases hform : name = formToolName
    · subst hform
      exact answers_form arguments hlong
    · by_cases hstyle : name = styleToolName
      · refine ⟨_, ?_, .style hstyle⟩
        rw [call, if_neg hform, if_pos hstyle]
        rfl
      · refine ⟨_, ?_, .unknown hform hstyle⟩
        rw [call, if_neg hform, if_neg hstyle]
        rfl

/-- The descriptor of a number field that starts at an integer. -/
def fieldFrom (minimum : Int) : Json :=
  .ofMembers [("id", .int 1), ("type", .ofString "number"), ("label", .ofString "A"),
    ("field", .ofString "a"), ("min", .int minimum)]

theorem describes_fieldFrom (minimum : Int) :
    Describes [fieldFrom minimum]
      [⟨⟨1, lit "A", lit "a", none, false, false⟩, .number (some (.whole minimum)) none⟩] :=
  rfl

/-- A field that starts at the least integer past the limit is accepted, and its call fails. -/
theorem call_fails_tooLong :
    call (.text formToolName)
        (Value.ofJson (.ofMembers [("fields", .array [fieldFrom Numeral.tooLong])])) =
      .error (.fault .numeralTooLong) := by
  apply call_of_tooLong
  refine ⟨rfl, _, _, rfl, describes_fieldFrom Numeral.tooLong, _, List.mem_singleton.mpr rfl, ?_⟩
  intro hfit
  have hmin : (Number.whole Numeral.tooLong).Fits := hfit _ List.mem_cons_self
  rw [Number.Fits, Int.natAbs_natCast] at hmin
  exact Nat.lt_irrefl Numeral.tooLong hmin

end Formwright.Mcp
