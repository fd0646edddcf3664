import Formwright.Proofs.Markup.Wrappers
import Formwright.Proofs.Script.Sections

/-!
The markup and the script of one form agree. What either says of a field is read
off its text line by line, and both say the same: which fields there are, in
which order, which of them are required, and what kind of value each holds.
-/

namespace Formwright

open Text (doubleQuote)

namespace Wrapper

/-- The type and the initial value that go with the tag of a control, or with no control at all. -/
def shapeOf (tag : Option Text) : DataShape :=
  if tag = some (lit "el-checkbox-group") then ⟨lit "string[]", lit "[]"⟩
  else if tag = some (lit "el-input-number") then ⟨lit "number", lit "0"⟩
  else if tag = some (lit "el-switch") then ⟨lit "boolean", lit "false"⟩
  else if tag = some (lit "el-date-picker") then ⟨lit "Date | null", lit "null"⟩
  else ⟨lit "string", lit "''"⟩

theorem shapeOf_tag (kind : Option Kind) :
    shapeOf (kind.map Kind.tag) = DataShape.ofKind? kind := by
  cases kind with
  | none => rfl
  | some kind => cases kind <;> rfl

end Wrapper

/-- Whether a markup and a script say the same of a form with these fields. -/
structure Agree (markup script : Text) (fields : List Text) : Prop where
  props : (Template.wrappers markup).map Wrapper.prop? = fields.map some
  members : (Script.interfaceMembers? script).map (List.map Prod.fst) = some fields
  keys : (Script.initialMembers? script).map (List.map Prod.fst) = some fields
  rules : Script.ruleKeys? script = some
    (((Template.wrappers markup).filter fun w => Wrapper.required? w = some (lit "true")).filterMap
      Wrapper.prop?)
  bindings : ∀ w ∈ Template.wrappers markup, Wrapper.tag? w ≠ none →
    ∃ field, Wrapper.prop? w = some field ∧ Wrapper.binding? w = some (lit "formData." ++ field)
  types : (Script.interfaceMembers? script).map (List.map Prod.snd) =
    some ((Template.wrappers markup).map fun w => (Wrapper.shapeOf (Wrapper.tag? w)).type)
  initials : (Script.initialMembers? script).map (List.map Prod.snd) =
    some ((Template.wrappers markup).map fun w => (Wrapper.shapeOf (Wrapper.tag? w)).initial)

namespace Item

theorem isGuarded_disabledText (item : Item) : Text.IsGuarded item.disabledText := by
  apply Text.isGuarded_of_not_mem
  rw [Attributes.disabledText]
  cases item.disabled <;> decide

theorem isGuarded_of_inMarkup {n : Number} {t : Text} (h : n.inMarkup = .ok t) : t.IsGuarded :=
  Text.isGuarded_of_not_mem ((Number.isNumeral_of_inMarkup h).not_mem (by decide))

/-- Placeholders are escaped and the other values behind a binding hold no double quote. -/
theorem isGuarded_of_widget {item : Item} {widget : Widget} (h : item.widget = .ok widget) :
    widget.IsGuarded := by
  have hdisabled := item.isGuarded_disabledText
  have hplaceholder (prompt : Text) : Text.IsGuarded (item.placeholderText prompt) :=
    Text.isGuarded_escape _
  have hwidget := widget_eq_ok.mp h
  intro tag htag
  cases hkind : item.kind? with
  | none =>
    simp only [hkind] at hwidget
    subst hwidget
    simp [Widget.openingTag?] at htag
  | some kind =>
    simp only [hkind] at hwidget
    cases kind with
    | input | textarea =>
      simp only at hwidget
      subst hwidget
      obtain rfl := Option.some.inj htag
      simpa using ⟨hplaceholder _, hdisabled⟩
    | date =>
      simp only at hwidget
      subst hwidget
      simp [Widget.openingTag?] at htag
    | switch =>
      simp only at hwidget
      subst hwidget
      obtain rfl := Option.some.inj htag
      simpa using hdisabled
    | number =>
      obtain ⟨bounds, minimum, maximum, -, hmin, hmax, rfl⟩ := hwidget
      obtain rfl := Option.some.inj htag
      simpa using ⟨isGuarded_of_inMarkup hmin, isGuarded_of_inMarkup hmax, hdisabled⟩
    | select =>
      obtain ⟨options, -, rfl⟩ := hwidget
      obtain rfl := Option.some.inj htag
      simpa using ⟨hplaceholder _, hdisabled⟩
    | radio | checkbox =>
      obtain ⟨options, -, rfl⟩ := hwidget
      obtain rfl := Option.some.inj htag
      simpa using hdisabled

/-- What a wrapper says of its item. -/
theorem wrapper_of_block {item : Item} {block : Block} (h : item.block = .ok block) :
    Wrapper.prop? block.innerLines = some item.field ∧
      Wrapper.required? block.innerLines = some (writeFlag item.required) ∧
      Wrapper.tag? block.innerLines = item.kind?.map Kind.tag ∧
      (item.kind? ≠ none →
        Wrapper.binding? block.innerLines = some (lit "formData." ++ item.field)) := by
  obtain ⟨widget, hwidget, rfl⟩ := block_eq_ok.mp h
  obtain ⟨hkind, -⟩ := parts_of_widget hwidget
  refine ⟨Block.prop?_innerLines _, Block.required?_innerLines _, ?_, ?_⟩
  · rw [Block.tag?_innerLines, hkind]
  · intro hsome
    exact Block.binding?_innerLines (isGuarded_of_widget hwidget) (hkind ▸ hsome)

end Item

section

variable {items : List Item} {blocks : List Block}

/-- What is read off every wrapper is what it says of its item. -/
theorem map_wrappers {β : Type} {read : List Text → β} {value : Item → β}
    (h : List.Forall₂ (fun i b => Item.block i = .ok b) items blocks)
    (hread : ∀ {item block}, Item.block item = .ok block → read block.innerLines = value item) :
    (blocks.map Block.innerLines).map read = items.map value := by
  induction h with
  | nil => rfl
  | cons hblock hrest ih => simp only [List.map_cons, hread hblock, ih]

theorem filterMap_required_wrappers
    (h : List.Forall₂ (fun i b => Item.block i = .ok b) items blocks) :
    ((blocks.map Block.innerLines).filter fun w =>
        Wrapper.required? w = some (lit "true")).filterMap Wrapper.prop? =
      (items.filter (·.required)).map (·.field) := by
  induction h with
  | nil => rfl
  | @cons item block items blocks hblock hrest ih =>
    obtain ⟨hprop, hrequired, -, -⟩ := Item.wrapper_of_block hblock
    rw [List.map_cons]
    cases hflag : item.required with
    | true =>
      have hshown : Wrapper.required? block.innerLines = some (lit "true") := by
        rw [hrequired, hflag]
        rfl
      have hkept : (item :: items).filter (·.required) = item :: items.filter (·.required) :=
        List.filter_cons_of_pos hflag
      rw [List.filter_cons_of_pos (by simpa using hshown), List.filterMap_cons, hprop, hkept,
        List.map_cons]
      simp only [ih]
    | false =>
      have hshown : Wrapper.required? block.innerLines ≠ some (lit "true") := by
        rw [hrequired, hflag]
        decide
      rw [List.filter_cons_of_neg (by simpa using hshown),
        List.filter_cons_of_neg (by simp [hflag]), ih]

theorem bindings_of_wrappers
    (h : List.Forall₂ (fun i b => Item.block i = .ok b) items blocks) :
    ∀ w ∈ blocks.map Block.innerLines, Wrapper.tag? w ≠ none →
      ∃ field, Wrapper.prop? w = some field ∧
        Wrapper.binding? w = some (lit "formData." ++ field) := by
  induction h with
  | nil => simp
  | @cons item block items blocks hblock hrest ih =>
    rw [List.map_cons, List.forall_mem_cons]
    refine ⟨?_, ih⟩
    obtain ⟨hprop, -, htag, hbinding⟩ := Item.wrapper_of_block hblock
    intro hsome
    have hkind : item.kind? ≠ none := by
      intro hnone
      rw [htag, hnone] at hsome
      exact hsome rfl
    exact ⟨item.field, hprop, hbinding hkind⟩

end

/-- The markup of items read from documents, on one line each, and their script say the same of the
form; and there is markup unless a number is past the limit. -/
theorem agree_of_describes {documents : List Json} {items : List Item}
    (h : Describes documents items) (hlines : ∀ item ∈ items, item.IsOneLine) :
    (∀ markup, Template.build items = .ok markup →
      Agree markup (Script.build items) (items.map (·.field))) ∧
      ((∃ markup, Template.build items = .ok markup) ↔ ∀ item ∈ items, item.NumbersFit) := by
  have hnames : ∀ item ∈ items, newline ∉ item.field ∧ newline ∉ item.label := by
    intro item hitem
    have hone := hlines item hitem
    exact ⟨hone item.field (by simp [Item.texts]), hone item.label (by simp [Item.texts])⟩
  have hmembers := Script.interfaceMembers?_build hnames
  have hinitials := Script.initialMembers?_build hnames
  constructor
  · intro markup hmarkup
    obtain ⟨blocks, hblocks, rfl⟩ := Template.build_eq_ok.mp hmarkup
    have hwrappers := Template.wrappers_ofBlocks
      (Template.lines_of_items_generated .oneLine hblocks hlines)
    constructor
    case props =>
      rw [hwrappers, map_wrappers hblocks fun hblock => (Item.wrapper_of_block hblock).1,
        List.map_map]
      rfl
    case members =>
      rw [hmembers, Option.map_some, List.map_map]
      rfl
    case keys =>
      rw [hinitials, Option.map_some, List.map_map]
      rfl
    case rules =>
      rw [hwrappers, filterMap_required_wrappers hblocks]
      exact Script.ruleKeys?_build hnames
    case bindings =>
      rw [hwrappers]
      exact bindings_of_wrappers hblocks
    case types =>
      have hshown := @map_wrappers items blocks _
        (fun w => (Wrapper.shapeOf (Wrapper.tag? w)).type)
        (fun item => (DataShape.ofKind? item.kind?).type) hblocks fun hblock => by
          rw [(Item.wrapper_of_block hblock).2.2.1, Wrapper.shapeOf_tag]
      rw [hmembers, Option.map_some, List.map_map, hwrappers, hshown]
      rfl
    case initials =>
      have hshown := @map_wrappers items blocks _
        (fun w => (Wrapper.shapeOf (Wrapper.tag? w)).initial)
        (fun item => (DataShape.ofKind? item.kind?).initial) hblocks fun hblock => by
          rw [(Item.wrapper_of_block hblock).2.2.1, Wrapper.shapeOf_tag]
      rw [hinitials, Option.map_some, List.map_map, hwrappers, hshown]
      rfl
  · exact Template.exists_build_iff_of_describes h

/-- Two fields of one name that looks like the end of an attribute and like the start of a rule. -/
theorem agree_of_describes_twins :
    ∃ markup,
      Template.build
          [⟨⟨1, lit "A", lit "a\": [", none, true, false⟩,
              .checkbox [⟨lit "x", .text (lit "v")⟩]⟩,
            ⟨⟨1, lit "B", lit "a\": [", none, false, false⟩, .unknown (lit "slider")⟩] =
        .ok markup ∧
      Agree markup
        (Script.build
          [⟨⟨1, lit "A", lit "a\": [", none, true, false⟩,
              .checkbox [⟨lit "x", .text (lit "v")⟩]⟩,
            ⟨⟨1, lit "B", lit "a\": [", none, false, false⟩, .unknown (lit "slider")⟩])
        [lit "a\": [", lit "a\": ["] := by
  have hread : Describes
      [.ofMembers [("id", .int 1), ("type", .ofString "checkbox"), ("label", .ofString "A"),
          ("field", .ofString "a\": ["), ("required", .bool true), ("options", .array [.ofMembers
            [("label", .ofString "x"), ("value", .ofString "v")]])],
        .ofMembers [("id", .int 1), ("type", .ofString "slider"), ("label", .ofString "B"),
          ("field", .ofString "a\": [")]]
      [⟨⟨1, lit "A", lit "a\": [", none, true, false⟩,
          .checkbox [⟨lit "x", .text (lit "v")⟩]⟩,
        ⟨⟨1, lit "B", lit "a\": [", none, false, false⟩, .unknown (lit "slider")⟩] := rfl
  obtain ⟨hagree, hfit⟩ := agree_of_describes hread (by unfold Item.IsOneLine; decide)
  obtain ⟨markup, hmarkup⟩ := hfit.mpr (by
    simp [Item.NumbersFit, Control.numbers, Control.choices, Control.options?, Choice.number?])
  exact ⟨markup, hmarkup, hagree markup hmarkup⟩

end Formwright
