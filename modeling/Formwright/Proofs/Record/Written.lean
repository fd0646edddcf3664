import Formwright.Descriptors
import Formwright.Proofs.Markup.Block

/-!
Writing attribute by attribute. A subject whose attributes are those of an item is
written as the item is, in the markup and in the script, and so is the record of
an item.
-/

namespace Formwright

theorem Number.inMarkup_toValue (n : Number) : n.toValue.inMarkup = n.inMarkup := by
  cases n <;> rfl

theorem Scalar.inMarkup_toValue (value : Scalar) : value.toValue.inMarkup = value.inMarkup := by
  cases value with
  | text t => rfl
  | number n => exact n.inMarkup_toValue

/-- Whether the attributes of a subject are those of an item. -/
structure Subject.Shows (s : Subject) (item : Item) : Prop where
  type : s.get "type" = .ok (.text item.typeName)
  label : s.get "label" = .ok (.text item.label)
  field : s.get "field" = .ok (.text item.field)
  placeholder : s.get "placeholder" = .ok ((item.placeholder.map Value.text).getD .null)
  required : s.get "required" = .ok (.bool item.required)
  disabled : s.get "disabled" = .ok (.bool item.disabled)
  bounds : ∀ minimum maximum, item.control.bounds? = some (minimum, maximum) →
    s.get "min" = .ok (boundValue minimum) ∧ s.get "max" = .ok (boundValue maximum)
  options : ∀ choices, item.control.options? = some choices →
    s.get "options" = .ok (.list (choices.map fun c => .model (.choice c)))

namespace Subject

theorem get_eq_ok {s : Subject} {name : String} {v : Value} :
    s.get name = .ok v ↔ s.attribute? (lit name) = some v := by
  rw [get]
  cases s.attribute? (lit name) with
  | none => simp
  | some found => simp

/-- What shows an item goes on to show it under another type name and with further attributes. -/
theorem Shows.of_attributes {s s' : Subject} {item : Item} (h : s.Shows item)
    (hkept : ∀ name v, s.attribute? name = some v → s'.attribute? name = some v) :
    s'.Shows item := by
  have hget {name : String} {v : Value} (hv : s.get name = .ok v) : s'.get name = .ok v :=
    get_eq_ok.mpr (hkept _ _ (get_eq_ok.mp hv))
  exact ⟨hget h.type, hget h.label, hget h.field, hget h.placeholder, hget h.required,
    hget h.disabled, fun minimum maximum hbounds => (h.bounds minimum maximum hbounds).imp hget hget,
    fun choices hchoices => hget (h.options choices hchoices)⟩

theorem boundText_boundValue (bound : Option Number) (default : Number) :
    boundText (boundValue bound) default = (bound.getD default).inMarkup := by
  cases bound with
  | none => rfl
  | some n => cases n <;> rfl

/-- Both orders in which a choice is asked for its parts lead to the same. -/
theorem option_choice (c : Choice) :
    selectOption (.model (.choice c)) = c.optionText ∧
      groupOption (.model (.choice c)) = c.optionText := by
  have hlabel : (ofValue (.model (.choice c))).get "label" = .ok (.text c.caption) := rfl
  have hvalue : (ofValue (.model (.choice c))).get "value" = .ok c.value.toValue := rfl
  have hescaped : (Value.text c.caption).escaped = .ok c.caption.escape := rfl
  simp only [selectOption, groupOption, hlabel, hvalue, bind, Except.bind, hescaped,
    Scalar.inMarkup_toValue]
  exact ⟨rfl, rfl⟩

section

variable {s : Subject} {item : Item}

theorem Shows.options_eq (h : s.Shows item) {choices : List Choice}
    (hchoices : item.control.options? = some choices) {option : Value → Except Fault OptionText}
    (hoption : ∀ c, option (.model (.choice c)) = Choice.optionText c) :
    s.options option = item.optionTexts := by
  have hall : (choices.map fun c => Value.model (.choice c)).mapM option =
      choices.mapM Choice.optionText := by
    rw [List.mapM_map]
    congr 1
    funext c
    exact hoption c
  rw [Subject.options, h.options choices hchoices, Item.optionTexts, hchoices]
  exact hall

theorem Shows.fieldText_eq (h : s.Shows item) : s.fieldText = .ok item.field := by
  rw [fieldText, h.field]
  rfl

theorem Shows.disabledText_eq (h : s.Shows item) : s.disabledText = .ok item.disabledText := by
  rw [disabledText, h.disabled]
  rfl

theorem Shows.placeholderText_eq (h : s.Shows item) (prompt : Text) :
    s.placeholderText prompt = .ok (item.placeholderText prompt) := by
  rw [placeholderText, h.placeholder, h.label, Attributes.placeholderText,
    Attributes.effectivePlaceholder]
  cases hplaceholder : item.placeholder with
  | none => rfl
  | some t => cases t <;> rfl

/-- The control of a subject is that of the item whose attributes it has. -/
theorem Shows.widget_eq (h : s.Shows item) (hparts : item.HasParts) :
    s.widget = item.widget.map fun widget => (item.field, widget) := by
  have hkind : (Value.text item.typeName).lookUpKind = .ok item.kind? := rfl
  have hfield := h.fieldText_eq
  have hdisabled := h.disabledText_eq
  have hplaceholder := h.placeholderText_eq
  have hdisplay : (Value.text item.typeName).display = .ok item.typeName := rfl
  rw [Subject.widget, h.type]
  unfold Item.widget
  unfold Item.HasParts at hparts
  simp only [bind, Except.bind, hkind]
  cases hk : item.kind? with
  | none =>
    simp only [hfield, hdisplay]
    rfl
  | some kind =>
    rw [hk] at hparts
    cases kind with
    | input | textarea | date =>
      simp only [hfield, hplaceholder, hdisabled]
      rfl
    | switch =>
      simp only [hfield, hdisabled]
      rfl
    | number =>
      obtain ⟨⟨minimum, maximum⟩, hbounds⟩ := hparts
      obtain ⟨hmin, hmax⟩ := h.bounds minimum maximum hbounds
      simp only [hmin, hmax, hfield, hbounds, boundText_boundValue, hdisabled]
      cases (minimum.getD Template.defaultMinimum).inMarkup with
      | error fault => rfl
      | ok low => cases (maximum.getD Template.defaultMaximum).inMarkup <;> rfl
    | select =>
      obtain ⟨choices, hchoices⟩ := hparts
      have hoptions := h.options_eq hchoices fun c => (option_choice c).1
      simp only [hfield, hplaceholder, hdisabled, hoptions]
      cases item.optionTexts <;> rfl
    | radio | checkbox =>
      obtain ⟨choices, hchoices⟩ := hparts
      have hoptions := h.options_eq hchoices fun c => (option_choice c).2
      simp only [group, bind, Except.bind, hfield, hdisabled, hoptions]
      cases item.optionTexts <;> rfl

theorem Shows.block_eq (h : s.Shows item) (hparts : item.HasParts) : s.block = item.block := by
  have hescaped : (Value.text item.label).escaped = .ok item.label.escape := rfl
  have hrequired : (Value.bool item.required).inMarkup = .ok (writeFlag item.required) := rfl
  rw [Subject.block, h.label, h.required, h.widget_eq hparts, Item.block]
  simp only [bind, Except.bind, hescaped, h.fieldText_eq, hrequired]
  cases item.widget <;> rfl

theorem Shows.member_eq (h : s.Shows item) : s.member = .ok item.member := by
  rw [Subject.member, Subject.shape, h.type, h.fieldText_eq]
  rfl

theorem Shows.isRequired_eq (h : s.Shows item) : s.isRequired = .ok item.required := by
  rw [Subject.isRequired, h.required]
  rfl

theorem Shows.rule_eq (h : s.Shows item) : s.rule = .ok item.rule := by
  rw [Subject.rule, Subject.trigger, h.fieldText_eq, h.label, h.type]
  rfl

end

end Subject

/-- The item that a record stands for, if it stands for one. -/
def Model.item? : Model → Option Item
  | .item i => some i
  | derived _ m => m.item?
  | choice _ | base _ _ | optioned _ _ _ | component _ => none

/-- The record of an item shows the item. -/
theorem Model.shows_of_item? {m : Model} {item : Item} (h : m.item? = some item) :
    (Record.ofModel m).toSubject.Shows item := by
  induction m with
  | derived name m ih => exact (ih h).of_attributes fun _ _ hv => hv
  | item i =>
    obtain rfl := Option.some.inj h
    refine ⟨rfl, rfl, rfl, rfl, rfl, rfl, ?_, ?_⟩
    · intro minimum maximum hbounds
      obtain ⟨attributes, control⟩ := i
      cases control with
      | number minimum' maximum' =>
        obtain ⟨rfl, rfl⟩ := Prod.mk.inj (Option.some.inj hbounds)
        exact ⟨rfl, rfl⟩
      | input | textarea | select | radio | checkbox | date | switch | unknown =>
        simp [Control.bounds?] at hbounds
    · intro choices hchoices
      obtain ⟨attributes, control⟩ := i
      cases control with
      | select options | radio options | checkbox options =>
        obtain rfl := Option.some.inj hchoices
        rfl
      | input | textarea | number | date | switch | unknown =>
        simp [Control.options?] at hchoices
  | choice | base | optioned | component => simp [item?] at h

namespace Parsed

/-- Whether all that is written of two descriptors is the same. -/
structure WrittenAlike (p q : Parsed) : Prop where
  block : p.block = q.block
  member : p.member = q.member
  isRequired : p.isRequired = q.isRequired
  rule : p.rule = q.rule

theorem WrittenAlike.refl (p : Parsed) : p.WrittenAlike p :=
  ⟨rfl, rfl, rfl, rfl⟩

/-- A record that shows an item is written as the item is. -/
theorem writtenAlike_of_shows {r : Record} {item : Item} (h : r.toSubject.Shows item)
    (hparts : item.HasParts) : (kept r).WrittenAlike (fresh item) :=
  ⟨h.block_eq hparts, h.member_eq, h.isRequired_eq, h.rule_eq⟩

section

variable {ps qs : List Parsed}

theorem templateOf_congr (h : List.Forall₂ WrittenAlike ps qs) : templateOf ps = templateOf qs := by
  have hblocks : ps.mapM Parsed.block = qs.mapM Parsed.block := by
    induction h with
    | nil => rfl
    | cons hfirst hrest ih => rw [List.mapM_cons, List.mapM_cons, hfirst.block, ih]
  rw [templateOf, templateOf, hblocks]

theorem rulesOf_congr (h : List.Forall₂ WrittenAlike ps qs) : rulesOf ps = rulesOf qs := by
  induction h with
  | nil => rfl
  | cons hfirst hrest ih => rw [rulesOf, rulesOf, hfirst.isRequired, hfirst.rule, ih]

theorem scriptOf_congr (h : List.Forall₂ WrittenAlike ps qs) : scriptOf ps = scriptOf qs := by
  have hmembers : ps.mapM Parsed.member = qs.mapM Parsed.member := by
    induction h with
    | nil => rfl
    | cons hfirst hrest ih => rw [List.mapM_cons, List.mapM_cons, hfirst.member, ih]
  rw [scriptOf, scriptOf, hmembers, rulesOf_congr h]

end

end Parsed

end Formwright
