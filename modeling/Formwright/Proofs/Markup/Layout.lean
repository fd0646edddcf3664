import Formwright.Component.Template
import Formwright.Proofs.Outcome
import Formwright.Proofs.Reading.Described
import Formwright.Proofs.Text.Framing

/-!
The layout of markup as a whole: which texts go into a block, what its lines
take over from them, how far each line is indented, and for which items there is
a block at all.
-/

namespace Formwright

namespace OptionText

def texts (o : OptionText) : List Text :=
  [o.caption, o.value]

end OptionText

namespace Widget

/-- The texts that go into the lines of a control. -/
def texts : Widget → List Text
  | absent => []
  | input placeholder disabled | textarea placeholder disabled | date placeholder disabled =>
    [placeholder, disabled]
  | number minimum maximum disabled => [minimum, maximum, disabled]
  | select placeholder disabled options =>
    placeholder :: disabled :: options.flatMap OptionText.texts
  | group _ disabled options => disabled :: options.flatMap OptionText.texts
  | switch disabled => [disabled]

/-- The kind of field that a control is for. -/
def kind? : Widget → Option Kind
  | absent => none
  | input _ _ => some .input
  | textarea _ _ => some .textarea
  | number _ _ _ => some .number
  | select _ _ _ => some .select
  | group .radio _ _ => some .radio
  | group .checkbox _ _ => some .checkbox
  | date _ _ => some .date
  | switch _ => some .switch

def disabled? : Widget → Option Text
  | absent => none
  | input _ disabled | textarea _ disabled | number _ _ disabled | select _ disabled _
  | group _ disabled _ | date _ disabled | switch disabled => some disabled

def placeholder? : Widget → Option Text
  | input placeholder _ | textarea placeholder _ | select placeholder _ _ | date placeholder _ =>
    some placeholder
  | absent | number _ _ _ | group _ _ _ | switch _ => none

def options? : Widget → Option (List OptionText)
  | select _ _ options | group _ _ options => some options
  | absent | input _ _ | textarea _ _ | number _ _ _ | date _ _ | switch _ => none

end Widget

namespace Block

def texts (block : Block) : List Text :=
  block.label :: block.field :: block.required :: block.widget.texts

end Block

/-- An opening tag on one line: what stands before the binding of the field, the attributes behind
it, and how the line ends. -/
structure OpeningTag where
  start : Text
  attributes : List (Text × Text)
  ending : Text

namespace OpeningTag

open Template (attr bindingTo)

def attributesText (attributes : List (Text × Text)) : Text :=
  attributes.flatMap fun (name, value) => lit " " ++ attr name value

def line (tag : OpeningTag) (field : Text) : Text :=
  tag.start ++ bindingTo field ++ attributesText tag.attributes ++ tag.ending

end OpeningTag

namespace Widget

/-- The opening tag of a control that has it on one line. -/
def openingTag? : Widget → Option OpeningTag
  | absent => none
  | input placeholder disabled =>
    some ⟨lit "      <el-input ", [(lit "placeholder", placeholder), (lit ":disabled", disabled)],
      lit "></el-input>"⟩
  | textarea placeholder disabled =>
    some ⟨lit "      <el-input type=\"textarea\" ",
      [(lit "placeholder", placeholder), (lit ":disabled", disabled)], lit "></el-input>"⟩
  | number minimum maximum disabled =>
    some ⟨lit "      <el-input-number ",
      [(lit ":min", minimum), (lit ":max", maximum), (lit ":disabled", disabled)],
      lit "></el-input-number>"⟩
  | select placeholder disabled _ =>
    some ⟨lit "      <el-select ", [(lit "placeholder", placeholder), (lit ":disabled", disabled)],
      lit ">"⟩
  | group style disabled _ =>
    some ⟨lit "      <" ++ style.tag ++ lit "-group ", [(lit ":disabled", disabled)], lit ">"⟩
  | date _ _ => none
  | switch disabled =>
    some ⟨lit "      <el-switch ", [(lit ":disabled", disabled)], lit "></el-switch>"⟩

/-- The lines of a control behind its opening tag. -/
def body : Widget → List Text
  | select _ _ options => options.map Template.selectOption ++ [lit "      </el-select>"]
  | group style _ options =>
    options.map (Template.groupOption style.tag) ++ [lit "      </" ++ style.tag ++ lit "-group>"]
  | _ => []

theorem widgetLines_of_openingTag? {widget : Widget} {tag : OpeningTag}
    (h : widget.openingTag? = some tag) (field : Text) :
    Template.widgetLines field widget = tag.line field :: widget.body := by
  cases widget <;> simp only [openingTag?, Option.some.injEq, reduceCtorEq] at h <;> subst h <;>
    simp [Template.widgetLines, body, OpeningTag.line, OpeningTag.attributesText]

theorem mem_texts_of_openingTag? {widget : Widget} {tag : OpeningTag}
    (h : widget.openingTag? = some tag) :
    ∀ a ∈ tag.attributes, a.1.IsPlain ∧ a.2 ∈ widget.texts := by
  have hname : (lit "placeholder").IsPlain ∧ (lit ":disabled").IsPlain ∧ (lit ":min").IsPlain ∧
      (lit ":max").IsPlain := by decide
  cases widget <;> simp only [openingTag?, Option.some.injEq, reduceCtorEq] at h <;> subst h <;>
    simp [texts, hname]

end Widget

namespace Template

open Text (IsPlain Framing)

variable {given generated : Text → Prop}

theorem isPlain_tag (style : GroupStyle) : style.tag.IsPlain := by
  cases style <;> decide

theorem attr_generated (frame : Framing given generated) {name value : Text}
    (hname : name.IsPlain) (hvalue : given value) : generated (attr name value) :=
  frame.framed (hname.append (by decide)) (by simp [lit]) hvalue (by decide) (by simp [lit])

theorem bindingTo_generated (frame : Framing given generated) {field : Text}
    (hfield : given field) : generated (bindingTo field) :=
  attr_generated frame (by decide) (frame.prompted (by decide) hfield)

theorem attributesText_generated (frame : Framing given generated)
    {attributes : List (Text × Text)}
    (h : ∀ a ∈ attributes, a.1.IsPlain ∧ given a.2) :
    generated (OpeningTag.attributesText attributes) := by
  induction attributes with
  | nil => exact frame.fixed (by decide)
  | cons first attributes ih =>
    have hfirst := h first (by simp)
    have hrest := ih fun a ha => h a (List.mem_cons_of_mem first ha)
    have hblank : generated (lit " ") := frame.fixed (by decide)
    exact frame.append (frame.append hblank (attr_generated frame hfirst.1 hfirst.2)) hrest

theorem openingTag_generated (frame : Framing given generated) {field : Text} {widget : Widget}
    {tag : OpeningTag} (htag : widget.openingTag? = some tag) (hfield : given field)
    (hwidget : ∀ t ∈ widget.texts, given t) : generated (tag.line field) := by
  have hends : tag.start.IsPlain ∧ tag.ending.IsPlain := by
    cases widget <;> simp only [Widget.openingTag?, Option.some.injEq, reduceCtorEq] at htag <;>
      subst htag
    case group style disabled options =>
      dsimp only
      cases style <;> decide
    all_goals
      dsimp only
      decide
  have hattributes : generated (OpeningTag.attributesText tag.attributes) := by
    apply attributesText_generated frame
    intro a ha
    have hmem := Widget.mem_texts_of_openingTag? htag a ha
    exact ⟨hmem.1, hwidget _ hmem.2⟩
  have hstart : generated (tag.start ++ bindingTo field) :=
    frame.append (frame.fixed hends.1) (bindingTo_generated frame hfield)
  exact frame.append (frame.append hstart hattributes) (frame.fixed hends.2)

theorem selectOption_generated (frame : Framing given generated) {o : OptionText}
    (ho : ∀ t ∈ o.texts, given t) : generated (selectOption o) := by
  have hline : selectOption o = lit "        <el-option" ++
      OpeningTag.attributesText [(lit "label", o.caption), (lit "value", o.value)] ++
      lit "></el-option>" := by
    simp [selectOption, OpeningTag.attributesText, lit]
  have hname : (lit "label").IsPlain ∧ (lit "value").IsPlain := by decide
  rw [hline]
  apply frame.append
  · apply frame.append
    · exact frame.fixed (by decide)
    · apply attributesText_generated frame
      simpa [hname, OptionText.texts] using ho
  · exact frame.fixed (by decide)

theorem groupOption_generated (frame : Framing given generated) (style : GroupStyle)
    {o : OptionText} (ho : ∀ t ∈ o.texts, given t) : generated (groupOption style.tag o) := by
  have hline : groupOption style.tag o = lit "        <" ++ style.tag ++
      OpeningTag.attributesText [(lit "label", o.value)] ++ (lit ">" ++ o.caption ++ lit "</") ++
      style.tag ++ lit ">" := by
    simp [groupOption, OpeningTag.attributesText]
  have htag : generated style.tag := frame.fixed (isPlain_tag style)
  have hname : (lit "label").IsPlain := by decide
  have hvalue : given o.value := ho o.value (by simp [OptionText.texts])
  have hcaption : given o.caption := ho o.caption (by simp [OptionText.texts])
  rw [hline]
  apply frame.append
  · apply frame.append _ htag
    apply frame.append
    · apply frame.append
      · exact frame.append (frame.fixed (by decide)) htag
      · apply attributesText_generated frame
        simp [hname, hvalue]
    · exact frame.framed (by decide) (by simp [lit]) hcaption (by decide) (by simp [lit])
  · exact frame.fixed (by decide)

/-- The lines of a control take over what holds of the field and the control's texts. -/
theorem widgetLines_generated (frame : Framing given generated) {field : Text} {widget : Widget}
    (hfield : given field) (hwidget : ∀ t ∈ widget.texts, given t) :
    ∀ line ∈ widgetLines field widget, generated line := by
  intro line hline
  cases htag : widget.openingTag? with
  | some tag =>
    rw [Widget.widgetLines_of_openingTag? htag] at hline
    rcases List.mem_cons.mp hline with rfl | hline
    · exact openingTag_generated frame htag hfield hwidget
    · cases widget with
      | select placeholder disabled options =>
        rcases List.mem_append.mp hline with hline | hline
        · obtain ⟨o, ho, rfl⟩ := List.mem_map.mp hline
          apply selectOption_generated frame
          intro t ht
          have hmem : t ∈ options.flatMap OptionText.texts := List.mem_flatMap.mpr ⟨o, ho, ht⟩
          exact hwidget t (List.mem_cons_of_mem _ (List.mem_cons_of_mem _ hmem))
        · rw [List.mem_singleton.mp hline]
          exact frame.fixed (by decide)
      | group style disabled options =>
        rcases List.mem_append.mp hline with hline | hline
        · obtain ⟨o, ho, rfl⟩ := List.mem_map.mp hline
          apply groupOption_generated frame
          intro t ht
          have hmem : t ∈ options.flatMap OptionText.texts := List.mem_flatMap.mpr ⟨o, ho, ht⟩
          exact hwidget t (List.mem_cons_of_mem _ hmem)
        · rw [List.mem_singleton.mp hline]
          exact frame.fixed (((by decide : IsPlain _).append (isPlain_tag style)).append (by decide))
      | absent | input | textarea | number | date | switch => simp [Widget.body] at hline
  | none =>
    cases widget with
    | absent => simp [widgetLines] at hline
    | date placeholder disabled =>
      have hattr {name value : Text} (hname : name.IsPlain) (hvalue : value ∈ [placeholder, disabled]) :
          generated (attr name value) := attr_generated frame hname (hwidget value hvalue)
      simp only [widgetLines, List.mem_cons, List.not_mem_nil, or_false] at hline
      rcases hline with rfl | rfl | rfl | rfl | rfl | rfl
      · exact frame.fixed (by decide)
      · exact frame.append (frame.fixed (by decide)) (bindingTo_generated frame hfield)
      · exact frame.fixed (by decide)
      · exact frame.append (frame.fixed (by decide)) (hattr (by decide) (by simp))
      · apply frame.append
        · exact frame.append (frame.fixed (by decide)) (hattr (by decide) (by simp))
        · exact frame.fixed (by decide)
      · exact frame.fixed (by decide)
    | input | textarea | number | select | group | switch => simp [Widget.openingTag?] at htag

theorem blockLines_generated (frame : Framing given generated) {block : Block}
    (hblock : ∀ t ∈ block.texts, given t) : ∀ line ∈ blockLines block, generated line := by
  have hplain {t : Text} (ht : t.IsPlain) : generated t := frame.fixed ht
  have hattr {name value : Text} (hname : name.IsPlain) (hvalue : value ∈ block.texts) :
      generated (attr name value) := attr_generated frame hname (hblock value hvalue)
  have hwidget : ∀ line ∈ widgetLines block.field block.widget, generated line :=
    widgetLines_generated frame (hblock block.field (by simp [Block.texts]))
      fun t ht => hblock t (by simp [Block.texts, ht])
  intro line hline
  simp only [blockLines, List.mem_append, List.mem_cons, List.not_mem_nil, or_false] at hline
  rcases hline with ((rfl | rfl | rfl | rfl) | hline) | rfl
  · exact hplain (by decide)
  · exact frame.append (hplain (by decide)) (hattr (by decide) (by simp [Block.texts]))
  · exact frame.append (hplain (by decide)) (hattr (by decide) (by simp [Block.texts]))
  · exact frame.append (frame.append (hplain (by decide))
      (hattr (by decide) (by simp [Block.texts]))) (hplain (by decide))
  · exact hwidget line hline
  · exact hplain (by decide)

/-- All lines of the markup take over what holds of the texts in its blocks. -/
theorem lines_generated (frame : Framing given generated) {blocks : List Block}
    (hblocks : ∀ block ∈ blocks, ∀ t ∈ block.texts, given t) :
    ∀ line ∈ lines blocks, generated line := by
  have hheader : ∀ line ∈ header, line.IsPlain := by decide +kernel
  have hfooter : ∀ line ∈ footer, line.IsPlain := by decide +kernel
  intro line hline
  rcases List.mem_append.mp hline with hline | hline
  · rcases List.mem_append.mp hline with hline | hline
    · exact frame.fixed (hheader line hline)
    · obtain ⟨block, hblock, hline⟩ := List.mem_flatMap.mp hline
      exact blockLines_generated frame (hblocks block hblock) line hline
  · exact frame.fixed (hfooter line hline)

/-- Everything inside a block stands at least six columns in. -/
theorem indented_of_mem_widgetLines {field : Text} {widget : Widget} {line : Text}
    (h : line ∈ widgetLines field widget) : line.take 6 = lit "      " := by
  cases widget with
  | absent => simp [widgetLines] at h
  | input placeholder disabled | textarea placeholder disabled | switch disabled
  | number minimum maximum disabled =>
    rw [List.mem_singleton.mp h]
    rfl
  | select placeholder disabled options =>
    simp only [widgetLines, List.mem_append, List.mem_cons, List.mem_map, List.not_mem_nil,
      or_false] at h
    rcases h with (rfl | ⟨o, -, rfl⟩) | rfl <;> rfl
  | group style disabled options =>
    simp only [widgetLines, List.mem_append, List.mem_cons, List.mem_map, List.not_mem_nil,
      or_false] at h
    rcases h with (rfl | ⟨o, -, rfl⟩) | rfl <;> rfl
  | date placeholder disabled =>
    simp only [widgetLines, List.mem_cons, List.not_mem_nil, or_false] at h
    rcases h with rfl | rfl | rfl | rfl | rfl | rfl <;> rfl

end Template

end Formwright
