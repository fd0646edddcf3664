import Formwright.Proofs.Markup.Distinct

/-!
What markup shows of an item. Two items that look alike have the same block, and
items with the same block look alike: nothing that belongs to the look of an item
is lost in markup, and nothing else, such as the id, gets into it.
-/

namespace Formwright

open Text (doubleQuote)

theorem writeFlag_injective {b b' : Bool} (h : writeFlag b = writeFlag b') : b = b' := by
  cases b <;> cases b' <;> simp [writeFlag, lit] at h ⊢

namespace Item

/-- The lower and the upper bound of an item as they are written, defaults included. -/
def boundTexts? (item : Item) : Option (Except Fault Text × Except Fault Text) :=
  item.control.bounds?.map fun bounds =>
    ((bounds.1.getD Template.defaultMinimum).inMarkup,
      (bounds.2.getD Template.defaultMaximum).inMarkup)

/-- The captions of the choices of an item in order, each with the value as it is written. -/
def choiceTexts? (item : Item) : Option (List (Text × Except Fault Text)) :=
  item.control.options?.map (List.map fun choice => (choice.caption, choice.value.inMarkup))

/-- Whether two items agree in what markup shows of an item of their kind. -/
structure LooksLike (x y : Item) : Prop where
  label : x.label = y.label
  field : x.field = y.field
  required : x.required = y.required
  kind : x.kind? = y.kind?
  disabled : x.kind? ≠ none → x.disabled = y.disabled
  placeholder : ∀ prompt, x.kind?.bind Kind.prompt? = some prompt →
    x.effectivePlaceholder prompt = y.effectivePlaceholder prompt
  bounds : x.kind? = some .number → x.boundTexts? = y.boundTexts?
  choices : ∀ kind, x.kind? = some kind → kind.hasOptions → x.choiceTexts? = y.choiceTexts?

/-- Whether two items differ at most in what is not shown: in the id, and for an unknown kind in the
type name, the placeholder and the flag. -/
structure DiffersUnseen (x y : Item) : Prop where
  label : x.label = y.label
  field : x.field = y.field
  required : x.required = y.required
  rest : (x.kind? = none ∧ y.kind? = none) ∨ ∃ id, y = { x with id }

theorem DiffersUnseen.looksLike {x y : Item} (h : x.DiffersUnseen y) : x.LooksLike y := by
  have hrest := h.rest
  constructor
  case label => exact h.label
  case field => exact h.field
  case required => exact h.required
  all_goals
    rcases hrest with ⟨hx, hy⟩ | ⟨id, rfl⟩
    · simp [hx, hy]
    · intros
      rfl

/-- Whether no choice stands for a text with a double quote in it. -/
def HasUnquotedValues (item : Item) : Prop :=
  ∀ choice ∈ item.control.choices, ∀ t, choice.value = .text t → doubleQuote ∉ t

theorem optionTexts_eq_of_choiceTexts? {x y : Item} {choices choices' : List Choice}
    (hx : x.control.options? = some choices) (hy : y.control.options? = some choices')
    (h : x.choiceTexts? = y.choiceTexts?) : x.optionTexts = y.optionTexts := by
  have hwritten : choices.map (fun c => (c.caption, c.value.inMarkup)) =
      choices'.map fun c => (c.caption, c.value.inMarkup) := by
    simpa [choiceTexts?, hx, hy] using h
  -- An option is made from the caption and the written value alone.
  have hmake {cs : List Choice} : cs.mapM Choice.optionText =
      (cs.map fun c => (c.caption, c.value.inMarkup)).mapM
        (fun p : Text × Except Fault Text => p.2.bind fun value => .ok ⟨p.1.escape, value⟩) := by
    rw [List.mapM_map]
    rfl
  simp only [optionTexts, hx, hy]
  rw [hmake, hwritten, ← hmake]

theorem LooksLike.placeholderText {x y : Item} (h : x.LooksLike y) {prompt : Text}
    (hprompt : x.kind?.bind Kind.prompt? = some prompt) :
    x.placeholderText prompt = y.placeholderText prompt := by
  rw [Attributes.placeholderText, Attributes.placeholderText, h.placeholder prompt hprompt]

theorem LooksLike.optionTexts {x y : Item} (h : x.LooksLike y) {kind : Kind}
    (hkind : x.kind? = some kind) (hoptions : kind.hasOptions)
    (hx : ∃ choices, x.control.options? = some choices)
    (hy : ∃ choices, y.control.options? = some choices) : x.optionTexts = y.optionTexts := by
  obtain ⟨choices, hx⟩ := hx
  obtain ⟨choices', hy⟩ := hy
  exact optionTexts_eq_of_choiceTexts? hx hy (h.choices kind hkind hoptions)

/-- Items that look alike get the same control. -/
theorem LooksLike.widget_eq {x y : Item} (h : x.LooksLike y) (hx : x.HasParts) (hy : y.HasParts) :
    x.widget = y.widget := by
  have hdisabled (hsome : x.kind? ≠ none) : x.disabledText = y.disabledText := by
    rw [Attributes.disabledText, Attributes.disabledText, h.disabled hsome]
  have hplaceholder (prompt : Text) := @LooksLike.placeholderText x y h prompt
  have hoptions {kind : Kind} := @LooksLike.optionTexts x y h kind
  have hbounds := h.bounds
  unfold HasParts at hx hy
  unfold Item.widget
  rw [← h.kind] at hy ⊢
  cases hkind : x.kind? with
  | none => rfl
  | some kind =>
    simp only [hkind] at hx hy hplaceholder hoptions hbounds hdisabled
    rw [hdisabled (by simp)]
    cases kind with
    | input | textarea =>
      simp only
      rw [hplaceholder Template.enterPrompt rfl]
    | date =>
      simp only
      rw [hplaceholder Template.selectPrompt rfl]
    | switch => rfl
    | number =>
      obtain ⟨bounds, hx⟩ := hx
      obtain ⟨bounds', hy⟩ := hy
      have hwritten := hbounds rfl
      simp only [boundTexts?, hx, hy, Option.map_some, Option.some.injEq, Prod.mk.injEq] at hwritten
      simp only [hx, hy, hwritten.1, hwritten.2]
    | select =>
      simp only
      rw [hplaceholder Template.selectPrompt rfl, hoptions rfl rfl hx hy]
    | radio | checkbox =>
      simp only
      rw [hoptions rfl rfl hx hy]

theorem LooksLike.block_eq {x y : Item} (h : x.LooksLike y) (hx : x.HasParts) (hy : y.HasParts) :
    x.block = y.block := by
  rw [Item.block, Item.block, h.label, h.field, h.required, h.widget_eq hx hy]

theorem choiceTexts?_of_optionTexts {item : Item} {options : List OptionText}
    (h : item.optionTexts = .ok options) :
    ∃ written, item.choiceTexts? = some written ∧
      written.map (fun p => (p.1.escape, p.2)) =
        options.map fun o => (o.caption, Except.ok o.value) := by
  obtain ⟨choices, hchoices, hall⟩ := optionTexts_eq_ok.mp h
  refine ⟨choices.map fun c => (c.caption, c.value.inMarkup), ?_, ?_⟩
  · rw [choiceTexts?, hchoices, Option.map_some]
  · clear h hchoices
    induction hall with
    | nil => rfl
    | cons hoption hrest ih =>
      obtain ⟨hcaption, hvalue⟩ := Choice.optionText_eq_ok.mp hoption
      simp only [List.map_cons, ih, hcaption, hvalue]

/-- The written choices can be told from the options made of them. -/
theorem choiceTexts?_eq_of_optionTexts {x y : Item} {options : List OptionText}
    (hx : x.optionTexts = .ok options) (hy : y.optionTexts = .ok options) :
    x.choiceTexts? = y.choiceTexts? := by
  obtain ⟨written, hwritten, hmap⟩ := choiceTexts?_of_optionTexts hx
  obtain ⟨written', hwritten', hmap'⟩ := choiceTexts?_of_optionTexts hy
  have hescape : Function.Injective
      fun p : Text × Except Fault Text => (p.1.escape, p.2) := by
    intro p q hpair
    obtain ⟨hcaption, hvalue⟩ := Prod.mk.inj hpair
    exact Prod.ext (Text.escape_injective hcaption) hvalue
  rw [hwritten, hwritten', List.map_injective_iff.mpr hescape (hmap.trans hmap'.symm)]

theorem boundTexts?_eq_of_widget {x y : Item} {widget : Widget} (hkind : x.kind? = some .number)
    (hkind' : y.kind? = some .number) (hx : x.widget = .ok widget) (hy : y.widget = .ok widget) :
    x.boundTexts? = y.boundTexts? := by
  have hx' := widget_eq_ok.mp hx
  have hy' := widget_eq_ok.mp hy
  rw [hkind] at hx'
  rw [hkind'] at hy'
  obtain ⟨bounds, minimum, maximum, hbounds, hmin, hmax, rfl⟩ := hx'
  obtain ⟨bounds', minimum', maximum', hbounds', hmin', hmax', hsame⟩ := hy'
  injection hsame with hminimum hmaximum
  simp only [boundTexts?, hbounds, hbounds', Option.map_some, hmin, hmax, hmin', hmax', hminimum,
    hmaximum]

/-- Items with the same block look alike. -/
theorem looksLike_of_block {x y : Item} {block : Block} (hx : x.block = .ok block)
    (hy : y.block = .ok block) : x.LooksLike y := by
  obtain ⟨widget, hwx, hbx⟩ := block_eq_ok.mp hx
  obtain ⟨widget', hwy, hby⟩ := block_eq_ok.mp hy
  obtain ⟨hlabel, hfield, hrequired, rfl⟩ : x.label.escape = y.label.escape ∧ x.field = y.field ∧
      writeFlag x.required = writeFlag y.required ∧ widget = widget' := by
    simpa using hbx.symm.trans hby
  obtain ⟨hkx, hdx, hpx⟩ := parts_of_widget hwx
  obtain ⟨hky, hdy, hpy⟩ := parts_of_widget hwy
  have hkind : x.kind? = y.kind? := hkx.symm.trans hky
  constructor
  case label => exact Text.escape_injective hlabel
  case field => exact hfield
  case required => exact writeFlag_injective hrequired
  case kind => exact hkind
  case disabled =>
    intro hsome
    obtain ⟨kind, hk⟩ := Option.ne_none_iff_exists'.mp hsome
    have hflags := hdx.symm.trans hdy
    rw [← hkind, hk] at hflags
    exact writeFlag_injective (Option.some.inj hflags)
  case placeholder =>
    intro prompt hprompt
    have hplaceholders := hpx.symm.trans hpy
    rw [← hkind, hprompt] at hplaceholders
    exact Text.escape_injective (Option.some.inj hplaceholders)
  case bounds =>
    intro hk
    exact boundTexts?_eq_of_widget hk (hkind ▸ hk) hwx hwy
  case choices =>
    intro kind hk hoptions
    obtain ⟨options, hwritten, hox⟩ := options?_of_widget hk hoptions hwx
    obtain ⟨options', hwritten', hoy⟩ := options?_of_widget (hkind ▸ hk) hoptions hwy
    obtain rfl : options = options' := Option.some.inj (hwritten.symm.trans hwritten')
    exact choiceTexts?_eq_of_optionTexts hox hoy

theorem isClear_of_optionTexts {item : Item} {options : List OptionText}
    (h : item.optionTexts = .ok options) (hitem : item.HasUnquotedValues) :
    ∀ o ∈ options, doubleQuote ∉ o.value := by
  obtain ⟨choices, hchoices, hall⟩ := optionTexts_eq_ok.mp h
  rw [HasUnquotedValues, Control.choices, hchoices, Option.getD_some] at hitem
  clear h hchoices
  induction hall with
  | nil => simp
  | cons hoption hrest ih =>
    rw [List.forall_mem_cons] at hitem ⊢
    refine ⟨?_, ih hitem.2⟩
    obtain ⟨-, hvalue⟩ := Choice.optionText_eq_ok.mp hoption
    rcases Scalar.inMarkup_eq_ok hvalue with htext | hnumeral
    · exact hitem.1 _ htext
    · exact hnumeral.not_mem (by decide)

/-- The control of an item is clear when the texts that its choices stand for are. -/
theorem isClear_of_block {item : Item} {block : Block} (h : item.block = .ok block)
    (hitem : item.HasUnquotedValues) : block.IsClear := by
  obtain ⟨widget, hwritten, rfl⟩ := block_eq_ok.mp h
  have hflag : doubleQuote ∉ item.disabledText := by
    rw [Attributes.disabledText]
    cases item.disabled <;> decide
  have hwidget := widget_eq_ok.mp hwritten
  change widget.IsClear
  cases hkind : item.kind? with
  | none =>
    rw [hkind] at hwidget
    rw [hwidget]
    trivial
  | some kind =>
    rw [hkind] at hwidget
    cases kind with
    | input | textarea | date | switch =>
      simp only at hwidget
      rw [hwidget]
      exact hflag
    | number =>
      obtain ⟨bounds, minimum, maximum, -, hmin, hmax, rfl⟩ := hwidget
      have hlow := (Number.isNumeral_of_inMarkup hmin).not_mem (c := doubleQuote) (by decide)
      have hhigh := (Number.isNumeral_of_inMarkup hmax).not_mem (c := doubleQuote) (by decide)
      exact ⟨hlow, hhigh, hflag⟩
    | select | radio | checkbox =>
      obtain ⟨options, hoptions, rfl⟩ := hwidget
      exact ⟨hflag, isClear_of_optionTexts hoptions hitem⟩

end Item

namespace Template

theorem build_eq_of_looksLike {xs ys : List Item} (hx : ∀ x ∈ xs, x.HasParts)
    (hy : ∀ y ∈ ys, y.HasParts) (h : List.Forall₂ Item.LooksLike xs ys) :
    build xs = build ys := by
  have hblocks : xs.mapM Item.block = ys.mapM Item.block := by
    induction h with
    | nil => rfl
    | cons hfirst hrest ih =>
      rw [List.forall_mem_cons] at hx hy
      rw [List.mapM_cons, List.mapM_cons, hfirst.block_eq hx.1 hy.1, ih hx.2 hy.2]
  rw [build, build, hblocks]

theorem looksLike_of_blocks {xs ys : List Item} {blocks : List Block}
    (hx : List.Forall₂ (fun i b => Item.block i = .ok b) xs blocks)
    (hy : List.Forall₂ (fun i b => Item.block i = .ok b) ys blocks) :
    List.Forall₂ Item.LooksLike xs ys := by
  induction hx generalizing ys with
  | nil =>
    cases hy
    exact .nil
  | cons hblock hrest ih =>
    cases hy with
    | cons hblock' hrest' => exact .cons (Item.looksLike_of_block hblock hblock') (ih hrest')

theorem isClear_of_blocks {items : List Item} {blocks : List Block}
    (h : List.Forall₂ (fun i b => Item.block i = .ok b) items blocks)
    (hitems : ∀ item ∈ items, item.HasUnquotedValues) : ∀ block ∈ blocks, block.IsClear := by
  induction h with
  | nil => simp
  | cons hblock hrest ih =>
    rw [List.forall_mem_cons] at hitems ⊢
    exact ⟨Item.isClear_of_block hblock hitems.1, ih hitems.2⟩

/-- Items on one line each, whose choices stand for no double quote, have the same markup only when
they look alike one by one. -/
theorem looksLike_of_build {xs ys : List Item} {t : Text} (hx : ∀ x ∈ xs, x.IsOneLine)
    (hy : ∀ y ∈ ys, y.IsOneLine) (hvx : ∀ x ∈ xs, x.HasUnquotedValues)
    (hvy : ∀ y ∈ ys, y.HasUnquotedValues) (hbx : build xs = .ok t) (hby : build ys = .ok t) :
    List.Forall₂ Item.LooksLike xs ys := by
  obtain ⟨blocks, hblocks, htext⟩ := build_eq_ok.mp hbx
  obtain ⟨blocks', hblocks', htext'⟩ := build_eq_ok.mp hby
  have hlines := lines_of_items_generated .oneLine hblocks hx
  have hlines' := lines_of_items_generated .oneLine hblocks' hy
  have hsame : blocks = blocks' := ofBlocks_inj (isClear_of_blocks hblocks hvx)
    (isClear_of_blocks hblocks' hvy) hlines hlines' (htext.symm.trans htext')
  rw [← hsame] at hblocks'
  exact looksLike_of_blocks hblocks hblocks'

/-- Markup loses and confuses nothing of what it shows. For items read from documents, on one line
each and without double quotes in the texts that choices stand for, the markups are the same exactly
when the items look alike one by one; and there is markup unless a number is past the limit. -/
theorem build_eq_iff_looksLike {documents documents' : List Json} {xs ys : List Item}
    (hx : Describes documents xs) (hy : Describes documents' ys)
    (hlines : ∀ item ∈ xs ++ ys, item.IsOneLine)
    (hvalues : ∀ item ∈ xs ++ ys, item.HasUnquotedValues) :
    (∀ t, build xs = .ok t → (build ys = .ok t ↔ List.Forall₂ Item.LooksLike xs ys)) ∧
      (List.Forall₂ Item.LooksLike xs ys → build xs = build ys) ∧
      (List.Forall₂ Item.DiffersUnseen xs ys → build xs = build ys) ∧
      ((∃ t, build xs = .ok t) ↔ ∀ x ∈ xs, x.NumbersFit) := by
  have hpx : ∀ x ∈ xs, x.HasParts := fun x hmem => (hx.isProper x hmem).hasParts
  have hpy : ∀ y ∈ ys, y.HasParts := fun y hmem => (hy.isProper y hmem).hasParts
  rw [List.forall_mem_append] at hlines hvalues
  have hsame : List.Forall₂ Item.LooksLike xs ys → build xs = build ys :=
    build_eq_of_looksLike hpx hpy
  refine ⟨?_, hsame, ?_, ?_⟩
  · intro t hbx
    constructor
    · intro hby
      exact looksLike_of_build hlines.1 hlines.2 hvalues.1 hvalues.2 hbx hby
    · intro halike
      rw [← hsame halike]
      exact hbx
  · intro hunseen
    apply hsame
    exact hunseen.imp fun _ _ => Item.DiffersUnseen.looksLike
  · exact exists_build_iff_of_describes hx

/-- A double quote in a caption does no harm, and renaming an unknown kind changes nothing. -/
theorem build_eq_of_renamed :
    build
        [⟨⟨1, lit "A", lit "a", none, false, false⟩,
            .select [⟨lit "x\" value=\"1", .number (.whole 2)⟩]⟩,
          ⟨⟨2, lit "B", lit "b", none, false, false⟩, .unknown (lit "slider")⟩] =
      build
        [⟨⟨3, lit "A", lit "a", none, false, false⟩,
            .select [⟨lit "x\" value=\"1", .number (.whole 2)⟩]⟩,
          ⟨⟨4, lit "B", lit "b", none, false, true⟩, .unknown (lit "rating")⟩] := by
  refine (@build_eq_iff_looksLike
    [.ofMembers [("id", .int 1), ("type", .ofString "select"), ("label", .ofString "A"),
        ("field", .ofString "a"), ("options", .array [.ofMembers
          [("label", .ofString "x\" value=\"1"), ("value", .int 2)]])],
      .ofMembers [("id", .int 2), ("type", .ofString "slider"), ("label", .ofString "B"),
        ("field", .ofString "b")]]
    [.ofMembers [("id", .int 3), ("type", .ofString "select"), ("label", .ofString "A"),
        ("field", .ofString "a"), ("options", .array [.ofMembers
          [("label", .ofString "x\" value=\"1"), ("value", .int 2)]])],
      .ofMembers [("id", .int 4), ("type", .ofString "rating"), ("label", .ofString "B"),
        ("field", .ofString "b"), ("disabled", .bool true)]] _ _ ?_ ?_ ?_ ?_).2.2.1 ?_
  · rfl
  · rfl
  · unfold Item.IsOneLine
    decide
  · simp [Item.HasUnquotedValues, Control.choices, Control.options?]
  · exact .cons ⟨rfl, rfl, rfl, .inr ⟨3, rfl⟩⟩ (.cons ⟨rfl, rfl, rfl, .inl ⟨rfl, rfl⟩⟩ .nil)

end Template

end Formwright
