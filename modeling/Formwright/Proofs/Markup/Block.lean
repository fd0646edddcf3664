import Formwright.Proofs.Markup.Layout
import Formwright.Proofs.Number.Limits

/-!
The block of an item. An item has one exactly when its control has the parts
that its kind is written with and every number in it can be written; and what
holds of the texts of an item holds of the texts in its block.
-/

namespace Formwright

namespace Choice

/-- The texts of a choice: its caption, and its value when that is a text. -/
def texts (choice : Choice) : List Text :=
  match choice.value with
  | .text t => [choice.caption, t]
  | .number _ => [choice.caption]

/-- The number in a choice, if its value is one. -/
def number? (choice : Choice) : Option Number :=
  match choice.value with
  | .text _ => none
  | .number n => some n

end Choice

namespace Control

def choices (control : Control) : List Choice :=
  control.options?.getD []

/-- The numbers that stand in the markup of a control, defaults included. -/
def numbers : Control → List Number
  | number minimum maximum =>
    [minimum.getD Template.defaultMinimum, maximum.getD Template.defaultMaximum]
  | control => control.choices.filterMap Choice.number?

/-- Whether every number that a control was given can be written. -/
def NumbersFit : Control → Prop
  | number minimum maximum => (∀ n ∈ minimum, n.Fits) ∧ ∀ n ∈ maximum, n.Fits
  | control => ∀ c ∈ control.choices, ∀ n ∈ c.number?, n.Fits

end Control

namespace Template

theorem isPlain_enterPrompt : enterPrompt.IsPlain := by decide

theorem isPlain_selectPrompt : selectPrompt.IsPlain := by decide

end Template

namespace Kind

/-- What a placeholder begins with that is made from the label. -/
def prompt? : Kind → Option Text
  | input | textarea => some Template.enterPrompt
  | select | date => some Template.selectPrompt
  | number | radio | checkbox | switch => none

end Kind

namespace Item

/-- The texts that an item brings along. -/
def texts (item : Item) : List Text :=
  item.label :: item.field :: (item.placeholder.toList ++ item.control.choices.flatMap Choice.texts)

/-- Whether every text that an item brings along stands on one line. -/
def IsOneLine (item : Item) : Prop :=
  ∀ t ∈ item.texts, newline ∉ t

theorem IsOneLine.names {item : Item} (h : item.IsOneLine) :
    newline ∉ item.field ∧ newline ∉ item.label :=
  ⟨h item.field (by simp [texts]), h item.label (by simp [texts])⟩

/-- Whether an item has what its kind is written with: bounds or choices. -/
def HasParts (item : Item) : Prop :=
  match item.kind? with
  | some .number => ∃ bounds, item.control.bounds? = some bounds
  | some .select | some .radio | some .checkbox => ∃ choices, item.control.options? = some choices
  | _ => True

/-- Whether every number that an item is written with can be written. -/
def NumbersFit (item : Item) : Prop :=
  ∀ n ∈ item.control.numbers, n.Fits

theorem IsProper.hasParts {item : Item} (h : item.IsProper) : item.HasParts := by
  rw [HasParts, h]
  cases item.control <;> simp [Control.kind?, Control.bounds?, Control.options?]

end Item

namespace Choice

theorem exists_optionText_iff (choice : Choice) :
    (∃ o, choice.optionText = .ok o) ↔ ∀ n ∈ choice.number?, n.Fits := by
  obtain ⟨caption, value⟩ := choice
  cases value with
  | text t => exact ⟨fun _ => by simp [number?], fun _ => ⟨_, rfl⟩⟩
  | number n =>
    simp only [number?, Option.mem_def, Option.some.injEq, forall_eq']
    rw [← n.exists_inMarkup_iff]
    constructor
    · rintro ⟨o, ho⟩
      obtain ⟨t, ht, -⟩ := Outcome.bind_eq_ok.mp ho
      exact ⟨t, ht⟩
    · rintro ⟨t, ht⟩
      exact ⟨_, Outcome.bind_eq_ok.mpr ⟨t, ht, rfl⟩⟩

theorem optionText_eq_ok {choice : Choice} {o : OptionText} :
    choice.optionText = .ok o ↔ o.caption = choice.caption.escape ∧
      choice.value.inMarkup = .ok o.value := by
  rw [optionText, Outcome.bind_eq_ok]
  constructor
  · rintro ⟨value, hvalue, hpure⟩
    cases hpure
    exact ⟨rfl, hvalue⟩
  · rintro ⟨hcaption, hvalue⟩
    exact ⟨o.value, hvalue, by rw [← hcaption]; rfl⟩

end Choice

theorem Scalar.inMarkup_eq_ok {value : Scalar} {t : Text} (h : value.inMarkup = .ok t) :
    value = .text t ∨ t.IsNumeral := by
  cases value with
  | text t' =>
    cases h
    exact .inl rfl
  | number n => exact .inr (Number.isNumeral_of_inMarkup h)

namespace Item

theorem optionTexts_eq_ok {item : Item} {options : List OptionText} :
    item.optionTexts = .ok options ↔ ∃ choices, item.control.options? = some choices ∧
      List.Forall₂ (fun c o => Choice.optionText c = .ok o) choices options := by
  rw [optionTexts]
  cases item.control.options? with
  | none => simp
  | some choices => simp [Outcome.mapM_eq_ok]

theorem exists_optionTexts_iff (item : Item) :
    (∃ options, item.optionTexts = .ok options) ↔
      (∃ choices, item.control.options? = some choices) ∧
        ∀ n ∈ item.control.choices.filterMap Choice.number?, n.Fits := by
  rw [optionTexts, Control.choices]
  cases item.control.options? with
  | none => simp
  | some choices =>
    simp only [Outcome.exists_mapM_eq_ok, Choice.exists_optionText_iff, Option.getD_some,
      List.mem_filterMap, Option.mem_def]
    constructor
    · intro h
      exact ⟨⟨choices, rfl⟩, fun n ⟨c, hc, hn⟩ => h c hc n hn⟩
    · intro h c hc n hn
      exact h.2 n ⟨c, hc, hn⟩

/-- Which control an item gets, told kind by kind. -/
theorem widget_eq_ok {item : Item} {widget : Widget} :
    item.widget = .ok widget ↔
      match item.kind? with
      | none => widget = .absent
      | some .input => widget = .input (item.placeholderText Template.enterPrompt) item.disabledText
      | some .textarea =>
        widget = .textarea (item.placeholderText Template.enterPrompt) item.disabledText
      | some .number => ∃ bounds minimum maximum, item.control.bounds? = some bounds ∧
          (bounds.1.getD Template.defaultMinimum).inMarkup = .ok minimum ∧
          (bounds.2.getD Template.defaultMaximum).inMarkup = .ok maximum ∧
          widget = .number minimum maximum item.disabledText
      | some .select => ∃ options, item.optionTexts = .ok options ∧
          widget = .select (item.placeholderText Template.selectPrompt) item.disabledText options
      | some .radio => ∃ options, item.optionTexts = .ok options ∧
          widget = .group .radio item.disabledText options
      | some .checkbox => ∃ options, item.optionTexts = .ok options ∧
          widget = .group .checkbox item.disabledText options
      | some .date => widget = .date (item.placeholderText Template.selectPrompt) item.disabledText
      | some .switch => widget = .switch item.disabledText := by
  unfold Item.widget
  cases item.kind? with
  | none => simp [eq_comm]
  | some kind =>
    cases kind with
    | number =>
      cases item.control.bounds? with
      | none => simp
      | some bounds =>
        have hpure {w : Widget} : (pure w : Except Fault Widget) = .ok widget ↔ widget = w := by
          simp [pure, Except.pure, eq_comm]
        simp only [Outcome.bind_eq_ok, hpure, Option.some.injEq, exists_and_left,
          exists_eq_left']
    | select | radio | checkbox => exact Outcome.bind_pure_eq_ok
    | input | textarea | date | switch => simp [eq_comm]

section

variable {item : Item} {widget : Widget}

/-- A control is one for the kind of its item, and shows its flag and the placeholder it needs. -/
theorem parts_of_widget (h : item.widget = .ok widget) :
    widget.kind? = item.kind? ∧
      widget.disabled? = item.kind?.map (fun _ => item.disabledText) ∧
      widget.placeholder? = (item.kind?.bind Kind.prompt?).map item.placeholderText := by
  have hwidget := widget_eq_ok.mp h
  cases hkind : item.kind? with
  | none =>
    rw [hkind] at hwidget
    rw [hwidget]
    exact ⟨rfl, rfl, rfl⟩
  | some kind =>
    rw [hkind] at hwidget
    cases kind with
    | input | textarea | date | switch =>
      simp only at hwidget
      rw [hwidget]
      exact ⟨rfl, rfl, rfl⟩
    | number =>
      obtain ⟨bounds, minimum, maximum, -, -, -, rfl⟩ := hwidget
      exact ⟨rfl, rfl, rfl⟩
    | select | radio | checkbox =>
      obtain ⟨options, -, rfl⟩ := hwidget
      exact ⟨rfl, rfl, rfl⟩

theorem options?_of_widget {kind : Kind} (hkind : item.kind? = some kind)
    (hoptions : kind.hasOptions) (h : item.widget = .ok widget) :
    ∃ options, widget.options? = some options ∧ item.optionTexts = .ok options := by
  have hwidget := widget_eq_ok.mp h
  rw [hkind] at hwidget
  cases kind with
  | select | radio | checkbox =>
    obtain ⟨options, hwritten, rfl⟩ := hwidget
    exact ⟨options, rfl, hwritten⟩
  | input | textarea | number | date | switch => simp [Kind.hasOptions] at hoptions

end

theorem block_eq_ok {item : Item} {block : Block} :
    item.block = .ok block ↔ ∃ widget, item.widget = .ok widget ∧
      block = ⟨item.label.escape, item.field, writeFlag item.required, widget⟩ := by
  rw [Item.block]
  exact Outcome.bind_pure_eq_ok

/-- The defaults can always be written. -/
theorem numbersFit_of_given {item : Item} (h : item.control.NumbersFit) : item.NumbersFit := by
  have hdefault {bound : Option Number} {default : Number} (hbound : ∀ n ∈ bound, n.Fits)
      (hdefault : default.Fits) : (bound.getD default).Fits := by
    cases bound with
    | none => exact hdefault
    | some n => exact hbound n rfl
  have hchoices (hgiven : ∀ c ∈ item.control.choices, ∀ n ∈ c.number?, n.Fits) :
      ∀ n ∈ item.control.choices.filterMap Choice.number?, n.Fits := by
    intro n hn
    obtain ⟨c, hc, hnumber⟩ := List.mem_filterMap.mp hn
    exact hgiven c hc n hnumber
  obtain ⟨attributes, control⟩ := item
  rw [NumbersFit]
  cases control with
  | number minimum maximum =>
    obtain ⟨hminimum, hmaximum⟩ := h
    have hlow : Template.defaultMinimum.Fits :=
      Numeral.lt_tooLong_of_word (by decide) (by decide)
    have hhigh : Template.defaultMaximum.Fits :=
      Numeral.lt_tooLong_of_word (by decide) (by decide)
    simp only [Control.numbers, List.forall_mem_cons]
    exact ⟨hdefault hminimum hlow, hdefault hmaximum hhigh, by simp⟩
  | input | textarea | select | radio | checkbox | date | switch | unknown => exact hchoices h

/-- A control without numbers in it belongs to none of the kinds that have them. -/
theorem numbersFit_of_control {item : Item} (h : item.control.numbers = []) : item.NumbersFit := by
  rw [NumbersFit, h]
  simp

theorem exists_widget_of_options {item : Item} {make : List OptionText → Widget} :
    (∃ widget, ∃ options, item.optionTexts = .ok options ∧ widget = make options) ↔
      (∃ choices, item.control.options? = some choices) ∧
        ∀ n ∈ item.control.choices.filterMap Choice.number?, n.Fits := by
  rw [exists_comm, ← exists_optionTexts_iff]
  simp only [exists_and_left, exists_eq, and_true]

/-- An item can be written when it has its parts and no number in it is past the limit. -/
theorem exists_block_iff {item : Item} :
    (∃ block, item.block = .ok block) ↔ item.HasParts ∧ item.NumbersFit := by
  have hblock : (∃ block, item.block = .ok block) ↔ ∃ widget, item.widget = .ok widget := by
    simp only [block_eq_ok, exists_comm, exists_and_left, exists_eq, and_true]
  have hkind {kind : Kind} : item.control.kind? = some kind → item.kind? = some kind :=
    kind?_of_control
  rw [hblock]
  simp only [widget_eq_ok, HasParts]
  cases hcontrol : item.control with
  | input | textarea | date | switch =>
    have hfit : item.NumbersFit := numbersFit_of_control (by rw [hcontrol]; rfl)
    rw [hkind (by rw [hcontrol]; rfl)]
    simp [hfit]
  | number minimum maximum =>
    rw [hkind (by rw [hcontrol]; rfl)]
    simp only [Control.bounds?, Option.some.injEq, exists_eq', true_and, NumbersFit,
      hcontrol, Control.numbers, List.forall_mem_cons, ← Number.exists_inMarkup_iff]
    simp
  | select options | radio options | checkbox options =>
    rw [hkind (by rw [hcontrol]; rfl)]
    simp only [exists_widget_of_options]
    rw [NumbersFit, hcontrol]
    rfl
  | unknown typeName =>
    have hfit : item.NumbersFit := numbersFit_of_control (by rw [hcontrol]; rfl)
    have hoptions : item.control.options? = none := by rw [hcontrol]; rfl
    have hbounds : item.control.bounds? = none := by rw [hcontrol]; rfl
    cases item.kind? with
    | none => simp [hfit]
    | some kind =>
      cases kind <;>
        simp [hfit, hbounds, exists_widget_of_options, hoptions, ← hcontrol]

section

open Text (Framing)

variable {given generated : Text → Prop}

theorem placeholderText_given (frame : Framing given generated) {item : Item} {prompt : Text}
    (hprompt : prompt.IsPlain) (hitem : ∀ t ∈ item.texts, given t) :
    given (item.placeholderText prompt) := by
  have hlabel : given item.label := hitem item.label (by simp [texts])
  apply frame.escaped
  unfold Attributes.effectivePlaceholder
  split
  · rename_i c rest hplaceholder
    exact hitem _ (by simp [texts, hplaceholder])
  · exact frame.prompted hprompt hlabel

theorem optionTexts_given (frame : Framing given generated) {item : Item}
    {options : List OptionText} (h : item.optionTexts = .ok options)
    (hitem : ∀ t ∈ item.texts, given t) : ∀ t ∈ options.flatMap OptionText.texts, given t := by
  obtain ⟨choices, hchoices, hall⟩ := optionTexts_eq_ok.mp h
  have hgiven : ∀ c ∈ choices, ∀ t ∈ c.texts, given t := by
    intro c hc t ht
    apply hitem
    simp only [texts, Control.choices, hchoices, Option.getD_some, List.mem_cons, List.mem_append,
      List.mem_flatMap]
    exact .inr (.inr (.inr ⟨c, hc, ht⟩))
  clear h hchoices
  induction hall with
  | nil => simp
  | @cons c o choices options hoption hrest ih =>
    obtain ⟨hcaption, hvalue⟩ := Choice.optionText_eq_ok.mp hoption
    intro t ht
    rw [List.flatMap_cons, List.mem_append] at ht
    rcases ht with ht | ht
    · have hc := hgiven c (by simp)
      simp only [OptionText.texts, List.mem_cons, List.not_mem_nil, or_false] at ht
      rcases ht with rfl | rfl
      · rw [hcaption]
        exact frame.escaped (hc c.caption (by simp only [Choice.texts]; split <;> simp))
      · rcases Scalar.inMarkup_eq_ok hvalue with htext | hnumeral
        · exact hc o.value (by simp [Choice.texts, htext])
        · exact frame.plain hnumeral.isPlain
    · exact ih (fun c hc => hgiven c (List.mem_cons_of_mem _ hc)) t ht

/-- What holds of the texts of an item holds of the texts in its control. -/
theorem widget_given (frame : Framing given generated) {item : Item} {widget : Widget}
    (h : item.widget = .ok widget) (hitem : ∀ t ∈ item.texts, given t) :
    ∀ t ∈ widget.texts, given t := by
  have henter := placeholderText_given frame Template.isPlain_enterPrompt hitem
  have hselect := placeholderText_given frame Template.isPlain_selectPrompt hitem
  have hdisabled : given item.disabledText := frame.plain (Text.isPlain_writeFlag item.disabled)
  have hwidget := widget_eq_ok.mp h
  cases hkind : item.kind? with
  | none =>
    rw [hkind] at hwidget
    simp [hwidget, Widget.texts]
  | some kind =>
    rw [hkind] at hwidget
    cases kind with
    | input | textarea =>
      simp only [hwidget, Widget.texts, List.forall_mem_cons]
      exact ⟨henter, hdisabled, by simp⟩
    | date =>
      simp only [hwidget, Widget.texts, List.forall_mem_cons]
      exact ⟨hselect, hdisabled, by simp⟩
    | switch =>
      simp only [hwidget, Widget.texts, List.forall_mem_cons]
      exact ⟨hdisabled, by simp⟩
    | number =>
      obtain ⟨bounds, minimum, maximum, -, hminimum, hmaximum, rfl⟩ := hwidget
      have hmin : given minimum := frame.plain (Number.isNumeral_of_inMarkup hminimum).isPlain
      have hmax : given maximum := frame.plain (Number.isNumeral_of_inMarkup hmaximum).isPlain
      simp only [Widget.texts, List.forall_mem_cons]
      exact ⟨hmin, hmax, hdisabled, by simp⟩
    | select =>
      obtain ⟨options, hoptions, rfl⟩ := hwidget
      simp only [Widget.texts, List.forall_mem_cons]
      exact ⟨hselect, hdisabled, optionTexts_given frame hoptions hitem⟩
    | radio | checkbox =>
      obtain ⟨options, hoptions, rfl⟩ := hwidget
      simp only [Widget.texts, List.forall_mem_cons]
      exact ⟨hdisabled, optionTexts_given frame hoptions hitem⟩

/-- What holds of the texts of an item holds of the texts in its block. -/
theorem block_given (frame : Framing given generated) {item : Item} {block : Block}
    (h : item.block = .ok block) (hitem : ∀ t ∈ item.texts, given t) :
    ∀ t ∈ block.texts, given t := by
  obtain ⟨widget, hwidget, rfl⟩ := block_eq_ok.mp h
  simp only [Block.texts, List.forall_mem_cons]
  refine ⟨?_, ?_, ?_, widget_given frame hwidget hitem⟩
  · exact frame.escaped (hitem item.label (by simp [texts]))
  · exact hitem item.field (by simp [texts])
  · exact frame.plain (Text.isPlain_writeFlag item.required)

end

end Item

namespace Template

/-- Markup exists when every item has a block, and then it is the layout of these blocks. -/
theorem build_eq_ok {items : List Item} {t : Text} :
    build items = .ok t ↔
      ∃ blocks, List.Forall₂ (fun i b => Item.block i = .ok b) items blocks ∧
        t = ofBlocks blocks := by
  simp only [build, Outcome.bind_pure_eq_ok, Outcome.mapM_eq_ok]

theorem exists_build_iff {items : List Item} :
    (∃ t, build items = .ok t) ↔ ∀ item ∈ items, item.HasParts ∧ item.NumbersFit := by
  simp only [← Item.exists_block_iff, ← Outcome.exists_mapM_eq_ok, Outcome.mapM_eq_ok, build_eq_ok]
  constructor
  · rintro ⟨t, blocks, hblocks, -⟩
    exact ⟨blocks, hblocks⟩
  · rintro ⟨blocks, hblocks⟩
    exact ⟨_, blocks, hblocks, rfl⟩

/-- Items read from documents always have their parts, so only a number can be in the way. -/
theorem exists_build_iff_of_describes {documents : List Json} {items : List Item}
    (h : Describes documents items) :
    (∃ t, build items = .ok t) ↔ ∀ item ∈ items, item.NumbersFit := by
  rw [exists_build_iff]
  constructor
  · intro hall item hitem
    exact (hall item hitem).2
  · intro hfit item hitem
    exact ⟨(h.isProper item hitem).hasParts, hfit item hitem⟩

/-- The lines of the markup take over what holds of the texts of the items. -/
theorem lines_of_items_generated {given generated : Text → Prop}
    (frame : Text.Framing given generated) {items : List Item} {blocks : List Block}
    (h : List.Forall₂ (fun i b => Item.block i = .ok b) items blocks)
    (hitems : ∀ item ∈ items, ∀ t ∈ item.texts, given t) :
    ∀ line ∈ lines blocks, generated line := by
  apply lines_generated frame
  induction h with
  | nil => simp
  | cons hblock hrest ih =>
    rw [List.forall_mem_cons] at hitems ⊢
    exact ⟨Item.block_given frame hblock hitems.1, ih hitems.2⟩

end Template

end Formwright
