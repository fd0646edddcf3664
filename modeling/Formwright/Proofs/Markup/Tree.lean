import Formwright.Proofs.Markup.Block
import Formwright.Proofs.Markup.Elements

/-!
The tree that the markup of a form is read as: a template with one form in it, and in the
form one element for each item, in order, and one for the submit button. The element of an
item holds its control, if its kind has one, and the control holds its choices. Children
stand on lines of their own, so the line breaks and blanks between them are nodes as well.
-/

namespace Formwright

namespace Text

/-- Whether a text can neither end a value nor start a tag. -/
def IsTagFree (t : Text) : Prop :=
  doubleQuote ∉ t ∧ .scalar '<' ∉ t

instance (t : Text) : Decidable t.IsTagFree :=
  inferInstanceAs (Decidable (_ ∧ _))

theorem IsTagFree.escape {t : Text} (h : t.IsTagFree) : t.escape.IsTagFree :=
  ⟨not_mem_escape (by decide) h.1, not_mem_escape (by decide) h.2⟩

theorem IsNumeral.isTagFree {t : Text} (h : t.IsNumeral) : t.IsTagFree :=
  ⟨h.not_mem (by decide), h.not_mem (by decide)⟩

theorem isTagFree_writeFlag (b : Bool) : (writeFlag b).IsTagFree := by
  cases b <;> decide

end Text

open Text (doubleQuote indent ofLedLines)
open Markup (ReadsAs IsAttribute IsName startTag endTag)

/-- The text of the value of a choice in markup. -/
def Scalar.markupText : Scalar → Text
  | text t => t
  | number n => n.markupText

theorem Scalar.eq_markupText {value : Scalar} {t : Text} (h : value.inMarkup = .ok t) :
    t = value.markupText := by
  cases value with
  | text t' =>
    cases h
    rfl
  | number n => exact Number.eq_markupText h

namespace Choice

def optionNode (choice : Choice) : Node :=
  .element (lit "el-option")
    [(lit "label", choice.caption.escape), (lit "value", choice.value.markupText)] []

def buttonNode (style : GroupStyle) (choice : Choice) : Node :=
  .element style.tag [(lit "label", choice.value.markupText)] (Node.ofText choice.caption.escape)

end Choice

namespace Item

open Template (binding)

def placeholderAttribute (item : Item) (prompt : Text) : Text × Text :=
  (lit "placeholder", (item.effectivePlaceholder prompt).escape)

def disabledAttribute (item : Item) : Text × Text :=
  (lit ":disabled", writeFlag item.disabled)

def groupNode (item : Item) (style : GroupStyle) (options : List Choice) : Node :=
  .element (style.tag ++ lit "-group") [binding item.field, item.disabledAttribute]
    (Node.spread 6 (options.map (Choice.buttonNode style)))

/-- The control of an item, if its kind is known. -/
def controlNode? (item : Item) : Option Node :=
  match item.control with
  | .unknown _ => none
  | .input => some <| .element (lit "el-input") [binding item.field,
      item.placeholderAttribute Template.enterPrompt, item.disabledAttribute] []
  | .textarea => some <| .element (lit "el-input") [(lit "type", lit "textarea"),
      binding item.field, item.placeholderAttribute Template.enterPrompt,
      item.disabledAttribute] []
  | .number minimum maximum => some <| .element (lit "el-input-number") [binding item.field,
      (lit ":min", (minimum.getD Template.defaultMinimum).markupText),
      (lit ":max", (maximum.getD Template.defaultMaximum).markupText), item.disabledAttribute] []
  | .select options => some <| .element (lit "el-select") [binding item.field,
      item.placeholderAttribute Template.selectPrompt, item.disabledAttribute]
      (Node.spread 6 (options.map Choice.optionNode))
  | .radio options => some (item.groupNode .radio options)
  | .checkbox options => some (item.groupNode .checkbox options)
  | .date => some <| .element (lit "el-date-picker") [binding item.field,
      (lit "type", lit "date"), item.placeholderAttribute Template.selectPrompt,
      item.disabledAttribute] (Node.spread 6 [])
  | .switch => some <| .element (lit "el-switch") [binding item.field, item.disabledAttribute] []

/-- The element of an item, with its control as the only element in it. -/
def node (item : Item) : Node :=
  .element (lit "el-form-item") [(lit "label", item.label.escape), (lit "prop", item.field),
    (lit ":required", writeFlag item.required)] (Node.spread 4 item.controlNode?.toList)

/-- Whether the texts that an item shows can neither end a value nor start a tag. -/
structure IsTagFree (item : Item) : Prop where
  label : item.label.IsTagFree
  field : item.field.IsTagFree
  placeholder : ∀ prompt ∈ item.kind?.bind Kind.prompt?,
    (item.effectivePlaceholder prompt).IsTagFree
  choices : ∀ choice ∈ item.control.choices, ∀ t ∈ choice.texts, t.IsTagFree

end Item

namespace Template

def submitNode : Node :=
  .element (lit "el-form-item") [] (Node.spread 4
    [.element (lit "el-button") [(lit "type", lit "primary"), (lit "@click", lit "handleSubmit")]
      [.text (lit "Submit")]])

def formAttributes : List (Text × Text) :=
  [(lit "ref", lit "form"), (lit ":model", lit "formData"), (lit ":rules", lit "rules"),
    (lit "label-width", lit "100px")]

/-- The tree of a form. -/
def tree (items : List Item) : Node :=
  .element (lit "template") [] (Node.spread 0
    [.element (lit "el-form") formAttributes
      (Node.spread 2 (items.map Item.node ++ [submitNode]))])

end Template

namespace Choice

/-- A choice in written form. -/
def written (choice : Choice) : OptionText :=
  ⟨choice.caption.escape, choice.value.markupText⟩

theorem eq_written {choice : Choice} {o : OptionText} (h : choice.optionText = .ok o) :
    o = choice.written := by
  obtain ⟨hcaption, hvalue⟩ := optionText_eq_ok.mp h
  rw [written, ← hcaption, ← Scalar.eq_markupText hvalue]

section

variable {choice : Choice}

theorem isTagFree_written (h : ∀ t ∈ choice.texts, t.IsTagFree) :
    choice.written.caption.IsTagFree ∧ choice.written.value.IsTagFree := by
  obtain ⟨caption, value⟩ := choice
  cases value with
  | text t =>
    have hboth : caption.IsTagFree ∧ t.IsTagFree := by simpa [texts] using h
    exact ⟨hboth.1.escape, hboth.2⟩
  | number n =>
    have hcaption : caption.IsTagFree := by simpa [texts] using h
    exact ⟨hcaption.escape, n.isNumeral_markupText.isTagFree⟩

theorem readsAs_optionNode (h : ∀ t ∈ choice.texts, t.IsTagFree) :
    ReadsAs (newline :: Template.selectOption choice.written)
      [.text (indent 8), choice.optionNode] := by
  obtain ⟨hcaption, hvalue⟩ := isTagFree_written h
  have hname : IsName (lit "label") ∧ IsName (lit "value") := by decide
  rw [Template.selectOption_eq]
  apply Markup.readsAs_leaf
  · decide
  · simp [IsAttribute, hname, hcaption.1, hvalue.1]
  · simp

theorem readsAs_buttonNode (style : GroupStyle) (h : ∀ t ∈ choice.texts, t.IsTagFree) :
    ReadsAs (newline :: Template.groupOption style.tag choice.written)
      [.text (indent 8), choice.buttonNode style] := by
  obtain ⟨hcaption, hvalue⟩ := isTagFree_written h
  have hname : IsName (lit "label") := by decide
  rw [Template.groupOption_eq]
  apply Markup.readsAs_leaf
  · cases style <;> decide
  · simp [IsAttribute, hname, hvalue.1]
  · exact hcaption.2

end

end Choice

namespace Item

section

variable {item : Item}

theorem isAttribute_binding {field : Text} (h : field.IsTagFree) :
    IsAttribute (Template.binding field) := by
  have hname : IsName (lit "v-model") := by decide
  have hprompt : doubleQuote ∉ lit "formData." := by decide
  refine ⟨hname, ?_⟩
  rw [Template.binding, List.mem_append]
  exact not_or.mpr ⟨hprompt, h.1⟩

theorem isAttribute_placeholder {prompt : Text} (h : (item.effectivePlaceholder prompt).IsTagFree) :
    IsAttribute (item.placeholderAttribute prompt) :=
  ⟨(by decide : IsName (lit "placeholder")), h.escape.1⟩

theorem isAttribute_disabled (item : Item) : IsAttribute item.disabledAttribute :=
  ⟨(by decide : IsName (lit ":disabled")), (Text.isTagFree_writeFlag item.disabled).1⟩

theorem isAttribute_bound {name : Text} (hname : IsName name) (n : Number) :
    IsAttribute (name, n.markupText) :=
  ⟨hname, n.isNumeral_markupText.isTagFree.1⟩

theorem eq_written_of_optionTexts {options : List OptionText} (h : item.optionTexts = .ok options) :
    options = item.control.choices.map Choice.written := by
  obtain ⟨choices, hchoices, hall⟩ := optionTexts_eq_ok.mp h
  rw [Control.choices, hchoices, Option.getD_some]
  clear hchoices h
  induction hall with
  | nil => rfl
  | cons hoption hrest ih => rw [Choice.eq_written hoption, ih, List.map_cons]

/-- The choices of a control, each on a line of its own. -/
theorem readsAs_choices {choices : List Choice} {write : OptionText → Text} {node : Choice → Node}
    (h : ∀ choice ∈ choices,
      ReadsAs (newline :: write choice.written) [.text (indent 8), node choice]) :
    ReadsAs (ofLedLines ((choices.map Choice.written).map write))
      ((choices.map node).flatMap fun child => [.text (indent 8), child]) := by
  have hread := Markup.readsAs_flatMap h
  simpa [ofLedLines, List.flatMap_map] using hread

/-- The control of an item in written form. -/
def writtenWidget (item : Item) : Widget :=
  match item.control with
  | .unknown _ => .absent
  | .input => .input (item.placeholderText Template.enterPrompt) item.disabledText
  | .textarea => .textarea (item.placeholderText Template.enterPrompt) item.disabledText
  | .number minimum maximum =>
    .number (minimum.getD Template.defaultMinimum).markupText
      (maximum.getD Template.defaultMaximum).markupText item.disabledText
  | .select options =>
    .select (item.placeholderText Template.selectPrompt) item.disabledText
      (options.map Choice.written)
  | .radio options => .group .radio item.disabledText (options.map Choice.written)
  | .checkbox options => .group .checkbox item.disabledText (options.map Choice.written)
  | .date => .date (item.placeholderText Template.selectPrompt) item.disabledText
  | .switch => .switch item.disabledText

theorem eq_writtenWidget {widget : Widget} (hproper : item.IsProper)
    (h : item.widget = .ok widget) : widget = item.writtenWidget := by
  have hwidget := widget_eq_ok.mp h
  rw [hproper] at hwidget
  cases hcontrol : item.control with
  | unknown | input | textarea | date | switch =>
    rw [hcontrol] at hwidget
    rw [writtenWidget, hcontrol]
    exact hwidget
  | number minimum maximum =>
    rw [hcontrol] at hwidget
    obtain ⟨bounds, low, high, hbounds, hlow, hhigh, rfl⟩ := hwidget
    cases hbounds
    rw [writtenWidget, hcontrol, Number.eq_markupText hlow, Number.eq_markupText hhigh]
  | select | radio | checkbox =>
    rw [hcontrol] at hwidget
    obtain ⟨options, hoptions, rfl⟩ := hwidget
    rw [writtenWidget, hcontrol, eq_written_of_optionTexts hoptions, hcontrol]
    rfl

theorem readsAs_group (style : GroupStyle) (hfield : item.field.IsTagFree) {options : List Choice}
    (hchoices : ∀ choice ∈ options, ∀ t ∈ choice.texts, t.IsTagFree) :
    ReadsAs (ofLedLines (Template.widgetLines item.field
        (.group style item.disabledText (options.map Choice.written))))
      [.text (indent 6), item.groupNode style options] := by
  have hlines := readsAs_choices fun choice hchoice =>
    Choice.readsAs_buttonNode style (hchoices choice hchoice)
  have hopens : OpeningTag.Opens ⟨lit "      <" ++ style.tag ++ lit "-group ",
      [item.disabledAttribute], lit ">"⟩ (style.tag ++ lit "-group") [] [] := by
    cases style <;> exact ⟨rfl, rfl⟩
  refine hopens.readsAs_spread ?_ ?_ rfl rfl ?_ hlines
  · cases style <;> decide
  · simp [isAttribute_binding hfield, isAttribute_disabled]
  · cases style <;> rfl

/-- The lines of a control read as its element, if there is a control. -/
theorem readsAs_control (hproper : item.IsProper) (h : item.IsTagFree) :
    ReadsAs (ofLedLines (Template.widgetLines item.field item.writtenWidget))
      (item.controlNode?.toList.flatMap fun child => [.text (indent 6), child]) := by
  have hbinding := isAttribute_binding h.field
  have hdisabled := isAttribute_disabled item
  have hplaceholder {prompt : Text} (hprompt : item.control.kind?.bind Kind.prompt? = some prompt) :
      IsAttribute (item.placeholderAttribute prompt) :=
    isAttribute_placeholder (h.placeholder prompt (by rw [hproper]; exact hprompt))
  have hchoices := h.choices
  rw [writtenWidget, controlNode?]
  cases hcontrol : item.control with
  | unknown => exact Markup.readsAs_nil
  | input =>
    have hprompt := @hplaceholder Template.enterPrompt (by rw [hcontrol]; rfl)
    have hopens : OpeningTag.Opens ⟨lit "      <el-input ",
        [item.placeholderAttribute Template.enterPrompt, item.disabledAttribute],
        lit "></el-input>"⟩ (lit "el-input") [] (endTag (lit "el-input")) := ⟨rfl, rfl⟩
    refine hopens.readsAs_leaf (by decide) ?_ rfl rfl
    simp only [List.nil_append, List.forall_mem_cons]
    exact ⟨hbinding, hprompt, hdisabled, by simp⟩
  | textarea =>
    have hprompt := @hplaceholder Template.enterPrompt (by rw [hcontrol]; rfl)
    have htype : IsAttribute (lit "type", lit "textarea") := by decide
    have hopens : OpeningTag.Opens ⟨lit "      <el-input type=\"textarea\" ",
        [item.placeholderAttribute Template.enterPrompt, item.disabledAttribute],
        lit "></el-input>"⟩ (lit "el-input") [(lit "type", lit "textarea")]
        (endTag (lit "el-input")) := ⟨rfl, rfl⟩
    refine hopens.readsAs_leaf (by decide) ?_ rfl rfl
    simp only [List.singleton_append, List.forall_mem_cons]
    exact ⟨htype, hbinding, hprompt, hdisabled, by simp⟩
  | number minimum maximum =>
    have hlow := isAttribute_bound (by decide : IsName (lit ":min"))
      (minimum.getD Template.defaultMinimum)
    have hhigh := isAttribute_bound (by decide : IsName (lit ":max"))
      (maximum.getD Template.defaultMaximum)
    have hopens : OpeningTag.Opens ⟨lit "      <el-input-number ",
        [(lit ":min", (minimum.getD Template.defaultMinimum).markupText),
          (lit ":max", (maximum.getD Template.defaultMaximum).markupText),
          item.disabledAttribute], lit "></el-input-number>"⟩ (lit "el-input-number") []
        (endTag (lit "el-input-number")) := ⟨rfl, rfl⟩
    refine hopens.readsAs_leaf (by decide) ?_ rfl rfl
    simp only [List.nil_append, List.forall_mem_cons]
    exact ⟨hbinding, hlow, hhigh, hdisabled, by simp⟩
  | select options =>
    have hprompt := @hplaceholder Template.selectPrompt (by rw [hcontrol]; rfl)
    rw [hcontrol] at hchoices
    have hlines := readsAs_choices fun choice hchoice =>
      Choice.readsAs_optionNode (hchoices choice hchoice)
    have hopens : OpeningTag.Opens ⟨lit "      <el-select ",
        [item.placeholderAttribute Template.selectPrompt, item.disabledAttribute], lit ">"⟩
        (lit "el-select") [] [] := ⟨rfl, rfl⟩
    refine hopens.readsAs_spread (by decide) ?_ rfl rfl rfl hlines
    simp only [List.nil_append, List.forall_mem_cons]
    exact ⟨hbinding, hprompt, hdisabled, by simp⟩
  | radio options =>
    rw [hcontrol] at hchoices
    exact readsAs_group .radio h.field hchoices
  | checkbox options =>
    rw [hcontrol] at hchoices
    exact readsAs_group .checkbox h.field hchoices
  | date =>
    have hprompt := @hplaceholder Template.selectPrompt (by rw [hcontrol]; rfl)
    have htype : IsAttribute (lit "type", lit "date") := by decide
    rw [Template.dateLines_eq]
    refine @Markup.readsAs_spread _ _ _ _ 6 [] (Markup.isGap_indent 8) (by decide) ?_
      Markup.readsAs_nil
    simp only [List.forall_mem_cons]
    exact ⟨hbinding, htype, hprompt, hdisabled, by simp⟩
  | switch =>
    have hopens : OpeningTag.Opens ⟨lit "      <el-switch ", [item.disabledAttribute],
        lit "></el-switch>"⟩ (lit "el-switch") [] (endTag (lit "el-switch")) := ⟨rfl, rfl⟩
    refine hopens.readsAs_leaf (by decide) ?_ rfl rfl
    simp only [List.nil_append, List.forall_mem_cons]
    exact ⟨hbinding, hdisabled, by simp⟩

/-- The block of an item reads as its element. -/
theorem readsAs_block {block : Block} (hproper : item.IsProper) (h : item.IsTagFree)
    (hblock : item.block = .ok block) :
    ReadsAs (ofLedLines (Template.blockLines block)) [.text (indent 4), item.node] := by
  have hname : IsName (lit "label") ∧ IsName (lit "prop") ∧ IsName (lit ":required") := by decide
  have hrequired := Text.isTagFree_writeFlag item.required
  obtain ⟨widget, hwidget, rfl⟩ := block_eq_ok.mp hblock
  rw [Template.blockLines_eq, eq_writtenWidget hproper hwidget]
  refine Markup.readsAs_spread (Markup.isGap_indent 6) (by decide) ?_ (readsAs_control hproper h)
  simp [IsAttribute, hname, h.label.escape.1, h.field.1, hrequired.1]

end

end Item

namespace Template

section

variable {items : List Item} {blocks : List Block}

theorem readsAs_blocks (h : List.Forall₂ (fun i b => Item.block i = .ok b) items blocks)
    (hproper : ∀ item ∈ items, item.IsProper) (hitems : ∀ item ∈ items, item.IsTagFree) :
    ReadsAs (ofLedLines (blocks.flatMap blockLines))
      ((items.map Item.node).flatMap fun child => [.text (indent 4), child]) := by
  induction h with
  | nil => exact Markup.readsAs_nil
  | cons hblock hrest ih =>
    rw [List.forall_mem_cons] at hproper hitems
    have hfirst := Item.readsAs_block hproper.1 hitems.1 hblock
    rw [List.flatMap_cons, Text.ofLedLines_append]
    exact hfirst.append (ih hproper.2 hitems.2)

/-- The text of the submit button in its own element. -/
def submitText : Text :=
  indent 4 ++ startTag (lit " ") (lit "el-form-item") [] ++
    (indent 6 ++ startTag (lit " ") (lit "el-button")
      [(lit "type", lit "primary"), (lit "@click", lit "handleSubmit")] ++ lit "Submit" ++
      endTag (lit "el-button")) ++ indent 4 ++ endTag (lit "el-form-item")

theorem readsAs_submitText : ReadsAs submitText [.text (indent 4), submitNode] := by
  refine Markup.readsAs_spread (by decide) (by decide) (by simp) ?_
  exact Markup.readsAs_leaf (by decide) (by decide) (by decide)

/-- The markup of blocks reads as the tree of their items. -/
theorem readsAs_ofBlocks (h : List.Forall₂ (fun i b => Item.block i = .ok b) items blocks)
    (hproper : ∀ item ∈ items, item.IsProper) (hitems : ∀ item ∈ items, item.IsTagFree) :
    ReadsAs (ofBlocks blocks) [tree items] := by
  have hheader : ofLedLines header.tail = indent 2 ++ startTag (indent 4) (lit "el-form")
      formAttributes := rfl
  have hfooter : ofLedLines footer = submitText ++ (indent 2 ++ endTag (lit "el-form") ++
      (indent 0 ++ endTag (lit "template"))) := rfl
  have htext : ofBlocks blocks = [] ++ startTag (lit " ") (lit "template") [] ++
      (indent 2 ++ startTag (indent 4) (lit "el-form") formAttributes ++
        (ofLedLines (blocks.flatMap blockLines) ++ submitText) ++ indent 2 ++
        endTag (lit "el-form")) ++ indent 0 ++ endTag (lit "template") := by
    have hlines : lines blocks =
        lit "<template>" :: (header.tail ++ blocks.flatMap blockLines ++ footer) := rfl
    have hopening : startTag (lit " ") (lit "template") [] = lit "<template>" := rfl
    rw [ofBlocks, hlines, Text.ofLines_cons, Text.ofLedLines_append, Text.ofLedLines_append,
      hheader, hfooter, hopening]
    simp
  have hchildren := (readsAs_blocks h hproper hitems).append readsAs_submitText
  have hform := @Markup.readsAs_spread _ (lit "el-form") _ formAttributes 2
    (items.map Item.node ++ [submitNode]) (Markup.isGap_indent 4) (by decide) (by decide)
    (by rw [List.flatMap_append]; exact hchildren)
  rw [htext]
  exact Markup.readsAs_element (by decide) (by decide) (by simp) hform (by simp)
    (Markup.not_mem_indent 0)

end

/-- The markup of a form is well formed and has the tree of its items. For documents that describe
items whose shown texts can neither end a value nor start a tag, the markup reads as the template
with its form and, in the form, the element of each item in order and the submit button; and there
is a markup unless a number is past the limit. -/
theorem read?_of_describes {documents : List Json} {items : List Item}
    (h : Describes documents items) (hitems : ∀ item ∈ items, item.IsTagFree) :
    (∀ markup, build items = .ok markup → Markup.read? markup = some [tree items]) ∧
      ((∃ markup, build items = .ok markup) ↔ ∀ item ∈ items, item.NumbersFit) := by
  refine ⟨?_, exists_build_iff_of_describes h⟩
  intro markup hmarkup
  obtain ⟨blocks, hblocks, rfl⟩ := build_eq_ok.mp hmarkup
  exact (readsAs_ofBlocks hblocks h.isProper hitems).read?

/-- A sign that ends a tag, an apostrophe and a line break do no harm as text, and an item of an
unknown kind has nothing in it. -/
theorem read?_of_describes_captions :
    ∃ markup, build [⟨⟨1, lit "A>", lit "a", none, true, false⟩,
          .radio [⟨lit "it's\n/>", .text (lit "x")⟩]⟩,
        ⟨⟨2, lit "B", lit "b", none, false, false⟩, .unknown (lit "map")⟩] = .ok markup ∧
      Markup.read? markup = some [tree [⟨⟨1, lit "A>", lit "a", none, true, false⟩,
          .radio [⟨lit "it's\n/>", .text (lit "x")⟩]⟩,
        ⟨⟨2, lit "B", lit "b", none, false, false⟩, .unknown (lit "map")⟩]] := by
  have hread : Describes
      [.ofMembers [("id", .int 1), ("type", .ofString "radio"), ("label", .ofString "A>"),
        ("field", .ofString "a"), ("required", .bool true), ("options", .array [.ofMembers
          [("label", .ofString "it's\n/>"), ("value", .ofString "x")]])],
        .ofMembers [("id", .int 2), ("type", .ofString "map"), ("label", .ofString "B"),
          ("field", .ofString "b")]]
      [⟨⟨1, lit "A>", lit "a", none, true, false⟩,
          .radio [⟨lit "it's\n/>", .text (lit "x")⟩]⟩,
        ⟨⟨2, lit "B", lit "b", none, false, false⟩, .unknown (lit "map")⟩] := rfl
  obtain ⟨htree, hfit⟩ := read?_of_describes hread (by
    simp only [List.forall_mem_cons]
    exact ⟨⟨by decide, by decide, nofun, by decide⟩, ⟨by decide, by decide, nofun, by decide⟩,
      by simp⟩)
  obtain ⟨markup, hmarkup⟩ := hfit.mpr (by
    simp [Item.NumbersFit, Control.numbers, Control.choices, Control.options?, Choice.number?])
  exact ⟨markup, hmarkup, htree markup hmarkup⟩

end Template

end Formwright
