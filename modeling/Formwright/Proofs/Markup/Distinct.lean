import Formwright.Proofs.Markup.Block
import Formwright.Proofs.Text.Lines
import Formwright.Proofs.Text.Marks

/-!
Markup tells its blocks apart. Line feeds separate the lines, the indentation
separates the lines of a control from the end of its block, and the start of the
first line tells which control it is. Within a line the values that hold no
double quote are taken off from the side where they stand, until fixed text
encloses the one value that may hold some.
-/

namespace Formwright

open Text (doubleQuote)

namespace Template

theorem attr_eq_append_mark (name value : Text) :
    attr name value = name ++ lit "=" ++ doubleQuote :: (value ++ [doubleQuote]) := by
  simp [attr, lit, doubleQuote]

theorem attr_inj {name value value' : Text} (h : attr name value = attr name value') :
    value = value' := by
  simpa [attr] using h

/-- An attribute at the end of a text can be taken off when no double quote stands in its value. -/
theorem append_attr_inj {s s' name value value' : Text} (hvalue : doubleQuote ∉ value)
    (hvalue' : doubleQuote ∉ value') (h : s ++ attr name value = s' ++ attr name value') :
    s = s' ∧ value = value' := by
  have hmark : (s ++ (name ++ lit "=")) ++ doubleQuote :: value =
      (s' ++ (name ++ lit "=")) ++ doubleQuote :: value' := by
    have hall : ((s ++ (name ++ lit "=")) ++ doubleQuote :: value) ++ [doubleQuote] =
        ((s' ++ (name ++ lit "=")) ++ doubleQuote :: value') ++ [doubleQuote] := by
      simpa [attr_eq_append_mark] using h
    exact List.append_cancel_right hall
  obtain ⟨hfront, hvalues⟩ := Mark.append_inj_of_behind hvalue hvalue' hmark
  exact ⟨List.append_cancel_right hfront, hvalues⟩

/-- An attribute in front of a text can be taken off likewise. -/
theorem attr_append_inj {s s' name value value' : Text} (hvalue : doubleQuote ∉ value)
    (hvalue' : doubleQuote ∉ value') (h : attr name value ++ s = attr name value' ++ s') :
    value = value' ∧ s = s' := by
  have hall : (name ++ lit "=" ++ [doubleQuote]) ++ (value ++ doubleQuote :: s) =
      (name ++ lit "=" ++ [doubleQuote]) ++ (value' ++ doubleQuote :: s') := by
    simpa [attr_eq_append_mark] using h
  exact Mark.append_inj_of_front hvalue hvalue' (List.append_cancel_left hall)

theorem selectOption_inj {o o' : OptionText} (ho : doubleQuote ∉ o.value)
    (ho' : doubleQuote ∉ o'.value) (h : selectOption o = selectOption o') : o = o' := by
  obtain ⟨caption, value⟩ := o
  obtain ⟨caption', value'⟩ := o'
  have hvalues := append_attr_inj ho ho' (List.append_cancel_right h)
  have hcaption : attr (lit "label") caption = attr (lit "label") caption' :=
    List.append_cancel_left (List.append_cancel_right hvalues.1)
  rw [attr_inj hcaption, show value = value' from hvalues.2]

theorem groupOption_inj {tag : Text} {o o' : OptionText} (ho : doubleQuote ∉ o.value)
    (ho' : doubleQuote ∉ o'.value) (h : groupOption tag o = groupOption tag o') : o = o' := by
  obtain ⟨caption, value⟩ := o
  obtain ⟨caption', value'⟩ := o'
  simp only [groupOption, List.append_assoc, List.append_cancel_left_eq] at h
  obtain ⟨hvalue, hrest⟩ := attr_append_inj ho ho' h
  have hcaption : caption = caption' := by simpa using hrest
  rw [hcaption, show value = value' from hvalue]

theorem map_inj_of_mem {α β : Type} {f : α → β} {xs ys : List α}
    (h : ∀ x ∈ xs, ∀ y ∈ ys, f x = f y → x = y) (heq : xs.map f = ys.map f) : xs = ys := by
  induction xs generalizing ys with
  | nil => simpa [eq_comm] using heq
  | cons x xs ih =>
    cases ys with
    | nil => simp at heq
    | cons y ys =>
      obtain ⟨hfirst, hrest⟩ := List.cons.inj heq
      have htail := ih (fun x' hx' y' hy' => h x' (List.mem_cons_of_mem x hx') y'
        (List.mem_cons_of_mem y hy')) hrest
      rw [h x (by simp) y (by simp) hfirst, htail]

end Template

namespace Widget

open Template (attr bindingTo widgetLines)

/-- The control of each kind. -/
theorem eq_of_kind? (widget : Widget) :
    match widget.kind? with
    | none => widget = absent
    | some .input => ∃ placeholder disabled, widget = input placeholder disabled
    | some .textarea => ∃ placeholder disabled, widget = textarea placeholder disabled
    | some .number => ∃ minimum maximum disabled, widget = number minimum maximum disabled
    | some .select => ∃ placeholder disabled options, widget = select placeholder disabled options
    | some .radio => ∃ disabled options, widget = group .radio disabled options
    | some .checkbox => ∃ disabled options, widget = group .checkbox disabled options
    | some .date => ∃ placeholder disabled, widget = date placeholder disabled
    | some .switch => ∃ disabled, widget = switch disabled := by
  cases widget with
  | group style disabled options => cases style <;> simp [kind?]
  | absent | input | textarea | number | select | date | switch => simp [kind?]

/-- How the first line of a control starts, as far as it takes to tell its kind. -/
def opening : Kind → Text
  | .input => lit "      <el-input v"
  | .textarea => lit "      <el-input t"
  | .number => lit "      <el-input-n"
  | .select => lit "      <el-select "
  | .radio => lit "      <el-radio-g"
  | .checkbox => lit "      <el-checkbo"
  | .date => lit "      <el-date-pi"
  | .switch => lit "      <el-switch "

theorem opening_injective {kind kind' : Kind} (h : opening kind = opening kind') :
    kind = kind' := by
  cases kind <;> cases kind' <;> simp [opening, lit] at h ⊢

theorem head?_widgetLines (field : Text) (widget : Widget) :
    (widgetLines field widget).head?.map (List.take 17) = widget.kind?.map opening := by
  cases widget with
  | group style disabled options => cases style <;> rfl
  | absent | input | textarea | number | select | date | switch => rfl

/-- The lines of a control tell its kind. -/
theorem kind?_of_widgetLines {field : Text} {widget widget' : Widget}
    (h : widgetLines field widget = widgetLines field widget') : widget.kind? = widget'.kind? := by
  have hopening : widget.kind?.map opening = widget'.kind?.map opening := by
    rw [← head?_widgetLines field, ← head?_widgetLines field, h]
  exact Option.map_injective (fun _ _ => opening_injective) hopening

/-- Whether no double quote stands in a control outside its placeholder and its captions. -/
def IsClear : Widget → Prop
  | absent => True
  | input _ disabled | textarea _ disabled | date _ disabled | switch disabled =>
    doubleQuote ∉ disabled
  | number minimum maximum disabled =>
    doubleQuote ∉ minimum ∧ doubleQuote ∉ maximum ∧ doubleQuote ∉ disabled
  | select _ disabled options | group _ disabled options =>
    doubleQuote ∉ disabled ∧ ∀ o ∈ options, doubleQuote ∉ o.value

/-- Controls with the same lines, whose opening tags start and end alike, have the same attributes
and go on alike. -/
theorem attributesText_of_widgetLines {field start ending : Text} {widget widget' : Widget}
    {attributes attributes' : List (Text × Text)}
    (h : widgetLines field widget = widgetLines field widget')
    (htag : widget.openingTag? = some ⟨start, attributes, ending⟩)
    (htag' : widget'.openingTag? = some ⟨start, attributes', ending⟩) :
    OpeningTag.attributesText attributes = OpeningTag.attributesText attributes' ∧
      widget.body = widget'.body := by
  rw [widgetLines_of_openingTag? htag, widgetLines_of_openingTag? htag'] at h
  obtain ⟨hline, hrest⟩ := List.cons.inj h
  simp only [OpeningTag.line] at hline
  exact ⟨List.append_cancel_left (List.append_cancel_right hline), hrest⟩

/-- A placeholder may hold double quotes, as the flag behind it holds none. -/
theorem placeholder_inj {placeholder placeholder' disabled disabled' : Text}
    (hd : doubleQuote ∉ disabled) (hd' : doubleQuote ∉ disabled')
    (h : OpeningTag.attributesText
        [(lit "placeholder", placeholder), (lit ":disabled", disabled)] =
      OpeningTag.attributesText
        [(lit "placeholder", placeholder'), (lit ":disabled", disabled')]) :
    placeholder = placeholder' ∧ disabled = disabled' := by
  have hattributes : (lit " " ++ attr (lit "placeholder") placeholder ++ lit " ") ++
        attr (lit ":disabled") disabled =
      (lit " " ++ attr (lit "placeholder") placeholder' ++ lit " ") ++
        attr (lit ":disabled") disabled' := by
    simpa [OpeningTag.attributesText] using h
  obtain ⟨hfront, hdisabled⟩ := Template.append_attr_inj hd hd' hattributes
  have hplaceholder := List.append_cancel_left (List.append_cancel_right hfront)
  exact ⟨Template.attr_inj hplaceholder, hdisabled⟩

theorem bounds_inj {minimum minimum' maximum maximum' disabled disabled' : Text}
    (hclear : (number minimum maximum disabled).IsClear)
    (hclear' : (number minimum' maximum' disabled').IsClear)
    (h : OpeningTag.attributesText
        [(lit ":min", minimum), (lit ":max", maximum), (lit ":disabled", disabled)] =
      OpeningTag.attributesText
        [(lit ":min", minimum'), (lit ":max", maximum'), (lit ":disabled", disabled')]) :
    minimum = minimum' ∧ maximum = maximum' ∧ disabled = disabled' := by
  obtain ⟨-, hmax, hd⟩ := hclear
  obtain ⟨-, hmax', hd'⟩ := hclear'
  have hattributes : (lit " " ++ attr (lit ":min") minimum ++ lit " " ++
          attr (lit ":max") maximum ++ lit " ") ++ attr (lit ":disabled") disabled =
      (lit " " ++ attr (lit ":min") minimum' ++ lit " " ++
          attr (lit ":max") maximum' ++ lit " ") ++ attr (lit ":disabled") disabled' := by
    simpa [OpeningTag.attributesText] using h
  obtain ⟨hbounds, hdisabled⟩ := Template.append_attr_inj hd hd' hattributes
  obtain ⟨hlow, hmaximum⟩ :=
    Template.append_attr_inj hmax hmax' (List.append_cancel_right hbounds)
  have hminimum := List.append_cancel_left (List.append_cancel_right hlow)
  exact ⟨Template.attr_inj hminimum, hmaximum, hdisabled⟩

theorem flag_inj {disabled disabled' : Text}
    (h : OpeningTag.attributesText [(lit ":disabled", disabled)] =
      OpeningTag.attributesText [(lit ":disabled", disabled')]) : disabled = disabled' := by
  have hattribute : lit " " ++ attr (lit ":disabled") disabled =
      lit " " ++ attr (lit ":disabled") disabled' := by
    simpa [OpeningTag.attributesText] using h
  exact Template.attr_inj (List.append_cancel_left hattribute)

theorem group_inj {field disabled disabled' : Text} {style : GroupStyle}
    {options options' : List OptionText} (hclear : (group style disabled options).IsClear)
    (hclear' : (group style disabled' options').IsClear)
    (h : widgetLines field (group style disabled options) =
      widgetLines field (group style disabled' options')) :
    group style disabled options = group style disabled' options' := by
  obtain ⟨hattributes, hbody⟩ := attributesText_of_widgetLines h rfl rfl
  have hoptions : options = options' := by
    apply Template.map_inj_of_mem _ (List.append_cancel_right hbody)
    intro o ho o' ho'
    exact Template.groupOption_inj (hclear.2 o ho) (hclear'.2 o' ho')
  rw [flag_inj hattributes, hoptions]

/-- Controls that are bound to one field and have the same lines are the same. -/
theorem widgetLines_inj {field : Text} {widget widget' : Widget} (hclear : widget.IsClear)
    (hclear' : widget'.IsClear) (h : widgetLines field widget = widgetLines field widget') :
    widget = widget' := by
  have hshape := widget.eq_of_kind?
  have hshape' := widget'.eq_of_kind?
  rw [← kind?_of_widgetLines h] at hshape'
  cases hkind : widget.kind? with
  | none =>
    simp only [hkind] at hshape hshape'
    rw [hshape, hshape']
  | some kind =>
    cases kind <;> simp only [hkind] at hshape hshape'
    case input =>
      obtain ⟨placeholder, disabled, rfl⟩ := hshape
      obtain ⟨placeholder', disabled', rfl⟩ := hshape'
      have htags := attributesText_of_widgetLines h rfl rfl
      obtain ⟨hp, hd⟩ := placeholder_inj hclear hclear' htags.1
      rw [hp, hd]
    case textarea =>
      obtain ⟨placeholder, disabled, rfl⟩ := hshape
      obtain ⟨placeholder', disabled', rfl⟩ := hshape'
      have htags := attributesText_of_widgetLines h rfl rfl
      obtain ⟨hp, hd⟩ := placeholder_inj hclear hclear' htags.1
      rw [hp, hd]
    case number =>
      obtain ⟨minimum, maximum, disabled, rfl⟩ := hshape
      obtain ⟨minimum', maximum', disabled', rfl⟩ := hshape'
      have htags := attributesText_of_widgetLines h rfl rfl
      obtain ⟨hlow, hhigh, hd⟩ := bounds_inj hclear hclear' htags.1
      rw [hlow, hhigh, hd]
    case select =>
      obtain ⟨placeholder, disabled, options, rfl⟩ := hshape
      obtain ⟨placeholder', disabled', options', rfl⟩ := hshape'
      have htags := attributesText_of_widgetLines h rfl rfl
      obtain ⟨hp, hd⟩ := placeholder_inj hclear.1 hclear'.1 htags.1
      have hoptions : options = options' :=
        Template.map_inj_of_mem (fun o ho o' ho' => Template.selectOption_inj (hclear.2 o ho)
          (hclear'.2 o' ho')) (List.append_cancel_right htags.2)
      rw [hp, hd, hoptions]
    case radio =>
      obtain ⟨disabled, options, rfl⟩ := hshape
      obtain ⟨disabled', options', rfl⟩ := hshape'
      exact group_inj hclear hclear' h
    case checkbox =>
      obtain ⟨disabled, options, rfl⟩ := hshape
      obtain ⟨disabled', options', rfl⟩ := hshape'
      exact group_inj hclear hclear' h
    case date =>
      obtain ⟨placeholder, disabled, rfl⟩ := hshape
      obtain ⟨placeholder', disabled', rfl⟩ := hshape'
      simp only [widgetLines, List.cons.injEq, true_and, and_true, List.append_cancel_left_eq,
        List.append_cancel_right_eq] at h
      rw [Template.attr_inj h.1, Template.attr_inj h.2]
    case switch =>
      obtain ⟨disabled, rfl⟩ := hshape
      obtain ⟨disabled', rfl⟩ := hshape'
      have htags := attributesText_of_widgetLines h rfl rfl
      rw [flag_inj htags.1]

end Widget

namespace Block

/-- Whether no double quote stands in a block outside its label, its field, its placeholder and its
captions. -/
def IsClear (block : Block) : Prop :=
  block.widget.IsClear

end Block

namespace Template

theorem closing_not_mem_widgetLines (field : Text) (widget : Widget) :
    lit "    </el-form-item>" ∉ widgetLines field widget := by
  intro hmem
  have hindent := indented_of_mem_widgetLines hmem
  exact absurd hindent (by decide)

/-- The first block of a list of lines can be taken off. -/
theorem blockLines_append_inj {block block' : Block} {rest rest' : List Text}
    (hclear : block.IsClear) (hclear' : block'.IsClear)
    (h : blockLines block ++ rest = blockLines block' ++ rest') :
    block = block' ∧ rest = rest' := by
  obtain ⟨label, field, required, widget⟩ := block
  obtain ⟨label', field', required', widget'⟩ := block'
  simp only [blockLines, List.cons_append, List.nil_append, List.append_assoc, List.cons.injEq,
    true_and] at h
  obtain ⟨hlabel, hfield, hrequired, hlines⟩ := h
  have hlabels : label = label' := attr_inj (List.append_cancel_left hlabel)
  have hfields : field = field' := attr_inj (List.append_cancel_left hfield)
  have hrequireds : required = required' :=
    attr_inj (List.append_cancel_right (List.append_cancel_left hrequired))
  obtain ⟨hwidget, hrest⟩ := Mark.append_inj_of_front (closing_not_mem_widgetLines field widget)
    (closing_not_mem_widgetLines field' widget') hlines
  rw [← hfields] at hwidget
  have hwidgets : widget = widget' := Widget.widgetLines_inj hclear hclear' hwidget
  rw [hlabels, hfields, hrequireds, hwidgets]
  exact ⟨rfl, hrest⟩

theorem footer_ne_blockLines_append (block : Block) (rest : List Text) :
    footer ≠ blockLines block ++ rest := by
  intro h
  have hfirst : lit "    <el-form-item>" = lit "    <el-form-item" := (List.cons.inj h).1
  exact absurd hfirst (by decide)

/-- The blocks can be read back off the lines in front of the footer. -/
theorem flatMap_blockLines_inj {blocks blocks' : List Block}
    (hclear : ∀ block ∈ blocks, block.IsClear) (hclear' : ∀ block ∈ blocks', block.IsClear)
    (h : blocks.flatMap blockLines ++ footer = blocks'.flatMap blockLines ++ footer) :
    blocks = blocks' := by
  induction blocks generalizing blocks' with
  | nil =>
    cases blocks' with
    | nil => rfl
    | cons block' blocks' =>
      rw [List.flatMap_nil, List.nil_append, List.flatMap_cons, List.append_assoc] at h
      exact absurd h (footer_ne_blockLines_append block' _)
  | cons block blocks ih =>
    cases blocks' with
    | nil =>
      rw [List.flatMap_nil, List.nil_append, List.flatMap_cons, List.append_assoc] at h
      exact absurd h.symm (footer_ne_blockLines_append block _)
    | cons block' blocks' =>
      rw [List.forall_mem_cons] at hclear hclear'
      rw [List.flatMap_cons, List.flatMap_cons, List.append_assoc, List.append_assoc] at h
      obtain ⟨hblock, hrest⟩ := blockLines_append_inj hclear.1 hclear'.1 h
      rw [hblock, ih hclear.2 hclear'.2 hrest]

/-- Markup without line feeds in its lines determines its blocks. -/
theorem ofBlocks_inj {blocks blocks' : List Block} (hclear : ∀ block ∈ blocks, block.IsClear)
    (hclear' : ∀ block ∈ blocks', block.IsClear)
    (hlines : ∀ line ∈ lines blocks, newline ∉ line)
    (hlines' : ∀ line ∈ lines blocks', newline ∉ line) (h : ofBlocks blocks = ofBlocks blocks') :
    blocks = blocks' := by
  have heq : lines blocks = lines blocks' :=
    Text.ofLines_injective (by simp [lines, header]) (by simp [lines, header]) hlines hlines' h
  simp only [lines, List.append_assoc] at heq
  exact flatMap_blockLines_inj hclear hclear' (List.append_cancel_left heq)

end Template

end Formwright
