import Formwright.Proofs.Reading.Boundary

/-!
Captions in attributes. A label, a placeholder and the caption of a choice stand between
double quotes, escaped as for a script. Markup knows no backslash: a value ends at the
next double quote, wherever that comes from. So a caption stays inside its attribute
exactly when it holds no double quote, and otherwise what follows its first one is read
as part of the tag.
-/

namespace Formwright

open Text (backslash doubleQuote)
open Template (attr bindingTo)

namespace Text

theorem cutAt_append {mark : CodePoint} {s : Text} (h : mark ∉ s) (t : Text) :
    cutAt mark (s ++ mark :: t) = (s, some t) := by
  induction s with
  | nil => simp [cutAt]
  | cons c s ih =>
    have hc : c ≠ mark := fun hc => h (by simp [hc])
    have hs := ih fun hmem => h (List.mem_cons_of_mem c hmem)
    rw [List.cons_append, cutAt, if_neg hc, hs]

/-- A value that escaped text stands in is cut at the first double quote of the text, behind the
backslash in front of it. -/
theorem cutAt_escape {s : Text} (hs : doubleQuote ∉ s) (t behind : Text) :
    cutAt doubleQuote (escape (s ++ doubleQuote :: t) ++ behind) =
      (s.escape ++ [backslash], some (t.escape ++ behind)) := by
  have hquote : escape (doubleQuote :: t) = backslash :: doubleQuote :: t.escape := by
    rw [escape_cons, if_pos (.inr rfl)]
  have hfront : doubleQuote ∉ s.escape ++ [backslash] := by
    rw [List.mem_append, List.mem_singleton, not_or]
    exact ⟨not_mem_escape (by decide) hs, by decide⟩
  have htext : escape (s ++ doubleQuote :: t) ++ behind =
      (s.escape ++ [backslash]) ++ doubleQuote :: (t.escape ++ behind) := by
    simp [escape_append, hquote]
  rw [htext, cutAt_append hfront]

/-- A value is read to its end exactly when the text in it holds no double quote. -/
theorem cutAt_escape_iff {t behind : Text} :
    cutAt doubleQuote (t.escape ++ doubleQuote :: behind) = (t.escape, some behind) ↔
      doubleQuote ∉ t := by
  constructor
  · intro hcut hmem
    obtain ⟨s, rest, rfl, hs⟩ := List.eq_append_cons_of_mem hmem
    rw [cutAt_escape hs] at hcut
    have hlength := congrArg List.length (Option.some.inj (Prod.mk.inj hcut).2)
    simp only [List.length_append, List.length_cons] at hlength
    omega
  · intro h
    exact cutAt_append (not_mem_escape (by decide) h) behind

end Text

/-- A place in a line where a text stands as the value of an attribute. -/
structure AttributeSpot where
  before : Text
  name : Text
  value : Text
  behind : Text

namespace AttributeSpot

def line (spot : AttributeSpot) : Text :=
  spot.before ++ attr spot.name spot.value ++ spot.behind

/-- The value that is read from behind the opening quote up to the next double quote, and the text
behind that one. -/
def read (spot : AttributeSpot) : Text × Option Text :=
  Text.cutAt doubleQuote (spot.value ++ doubleQuote :: spot.behind)

/-- Whether a spot shows a caption under a name: the value is the caption, escaped; it is read to the
end exactly when the caption holds no double quote; and if it holds one, the value ends with the
backslash in front of the first, and the rest of the caption is read as part of the tag. -/
structure Shows (spot : AttributeSpot) (name caption : Text) : Prop where
  name : spot.name = name
  value : spot.value = caption.escape
  closed_iff : spot.read = (spot.value, some spot.behind) ↔ doubleQuote ∉ caption
  read_of_quote : ∀ s t : Text, caption = s ++ doubleQuote :: t → doubleQuote ∉ s →
    spot.read = (s.escape ++ [backslash], some (t.escape ++ doubleQuote :: spot.behind))

theorem shows_escape (before name caption behind : Text) :
    Shows ⟨before, name, caption.escape, behind⟩ name caption where
  name := rfl
  value := rfl
  closed_iff := Text.cutAt_escape_iff
  read_of_quote s t h hs := by
    rw [read, h]
    exact Text.cutAt_escape hs t _

end AttributeSpot

namespace OptionText

def captionSpot (o : OptionText) : AttributeSpot :=
  ⟨lit "        <el-option ", lit "label", o.caption,
    lit " " ++ attr (lit "value") o.value ++ lit "></el-option>"⟩

theorem captionSpot_line (o : OptionText) : o.captionSpot.line = Template.selectOption o := by
  simp [AttributeSpot.line, captionSpot, Template.selectOption]

end OptionText

namespace Widget

/-- The spots of the captions in the lines of a control, in order. -/
def captionSpots (field : Text) : Widget → List AttributeSpot
  | input placeholder disabled =>
    [⟨lit "      <el-input " ++ bindingTo field ++ lit " ", lit "placeholder", placeholder,
      lit " " ++ attr (lit ":disabled") disabled ++ lit "></el-input>"⟩]
  | textarea placeholder disabled =>
    [⟨lit "      <el-input type=\"textarea\" " ++ bindingTo field ++ lit " ", lit "placeholder",
      placeholder, lit " " ++ attr (lit ":disabled") disabled ++ lit "></el-input>"⟩]
  | select placeholder disabled options =>
    ⟨lit "      <el-select " ++ bindingTo field ++ lit " ", lit "placeholder", placeholder,
      lit " " ++ attr (lit ":disabled") disabled ++ lit ">"⟩ :: options.map OptionText.captionSpot
  | date placeholder _ => [⟨lit "        ", lit "placeholder", placeholder, []⟩]
  | absent | number _ _ _ | group _ _ _ | switch _ => []

theorem captionSpots_sublist (field : Text) (widget : Widget) :
    ((widget.captionSpots field).map AttributeSpot.line).Sublist
      (Template.widgetLines field widget) := by
  cases widget with
  | absent | number | group | switch => exact List.nil_sublist _
  | input placeholder disabled | textarea placeholder disabled =>
    simp [captionSpots, AttributeSpot.line, Template.widgetLines]
  | date placeholder disabled =>
    simp [captionSpots, AttributeSpot.line, Template.widgetLines]
  | select placeholder disabled options =>
    have hoptions : (options.map OptionText.captionSpot).map AttributeSpot.line =
        options.map Template.selectOption := by
      rw [List.map_map]
      exact List.map_congr_left fun o _ => o.captionSpot_line
    rw [captionSpots, List.map_cons, hoptions]
    simp [AttributeSpot.line, Template.widgetLines]

end Widget

namespace Block

/-- The spots of the captions in the lines of a block, in order. -/
def captionSpots (block : Block) : List AttributeSpot :=
  ⟨lit "      ", lit "label", block.label, []⟩ :: block.widget.captionSpots block.field

/-- Each spot is on a line of its own. -/
theorem captionSpots_sublist (block : Block) :
    (block.captionSpots.map AttributeSpot.line).Sublist (Template.blockLines block) := by
  have hlabel : AttributeSpot.line ⟨lit "      ", lit "label", block.label, []⟩ =
      lit "      " ++ attr (lit "label") block.label := List.append_nil _
  have hwidget := block.widget.captionSpots_sublist block.field
  rw [captionSpots, List.map_cons, hlabel, Template.blockLines]
  refine .cons _ (.cons_cons _ (.cons _ (.cons _ ?_)))
  exact hwidget.trans (List.sublist_append_left _ _)

end Block

namespace Item

/-- The captions that an item shows in attributes, in order, each with the name of the attribute. -/
def captions (item : Item) : List (Text × Text) :=
  (lit "label", item.label) ::
    ((item.kind?.bind Kind.prompt?).toList.map fun prompt =>
      (lit "placeholder", item.effectivePlaceholder prompt)) ++
    if item.kind? = some .select then
      item.control.choices.map fun choice => (lit "label", choice.caption)
    else []

/-- Every caption of an item has a spot that shows it, and no spot shows anything else. -/
theorem shows_captions {item : Item} {block : Block} (h : item.block = .ok block) :
    List.Forall₂ (fun spot (caption : Text × Text) => AttributeSpot.Shows spot caption.1 caption.2)
      block.captionSpots item.captions := by
  obtain ⟨widget, hwidget, rfl⟩ := block_eq_ok.mp h
  have hparts := widget_eq_ok.mp hwidget
  refine .cons (AttributeSpot.shows_escape ..) ?_
  have hplaceholder (prompt : Text) : item.placeholderText prompt =
      (item.effectivePlaceholder prompt).escape := rfl
  cases hkind : item.kind? with
  | none =>
    rw [hkind] at hparts
    rw [hparts]
    exact .nil
  | some kind =>
    rw [hkind] at hparts
    cases kind with
    | input | textarea | date =>
      simp only [hplaceholder] at hparts
      rw [hparts]
      exact .cons (AttributeSpot.shows_escape ..) .nil
    | switch =>
      simp only at hparts
      rw [hparts]
      exact .nil
    | number =>
      obtain ⟨bounds, minimum, maximum, -, -, -, rfl⟩ := hparts
      exact .nil
    | radio | checkbox =>
      obtain ⟨options, -, rfl⟩ := hparts
      exact .nil
    | select =>
      obtain ⟨options, hoptions, rfl⟩ := hparts
      obtain ⟨choices, hchoices, hall⟩ := optionTexts_eq_ok.mp hoptions
      have hgiven : item.control.choices = choices := by rw [Control.choices, hchoices]; rfl
      have hspots : List.Forall₂
          (fun spot (caption : Text × Text) => AttributeSpot.Shows spot caption.1 caption.2)
          (options.map OptionText.captionSpot)
          (choices.map fun choice => (lit "label", choice.caption)) := by
        rw [List.forall₂_map_left_iff, List.forall₂_map_right_iff]
        refine hall.flip.imp fun o choice hoption => ?_
        rw [OptionText.captionSpot, (Choice.optionText_eq_ok.mp hoption).1]
        exact AttributeSpot.shows_escape ..
      rw [if_pos rfl, hgiven]
      exact .cons (AttributeSpot.shows_escape ..) hspots

end Item

/-- Captions in the lines of descriptors that were read. Behind every descriptor stands an item, and
its lines show the captions of the item in order, each on a line of its own: the value of the
attribute is read to its end exactly when the caption holds no double quote. -/
theorem captions_of_read {values : List Value} {parsed : List Parsed}
    (h : readDescriptors values = .ok parsed) :
    ∃ items, List.Forall₂ Parsed.IsOf parsed items ∧
      List.Forall₂ (fun p item => ∀ block, Parsed.block p = .ok block →
        (block.captionSpots.map AttributeSpot.line).Sublist (Template.blockLines block) ∧
          List.Forall₂ (fun spot (caption : Text × Text) => spot.Shows caption.1 caption.2)
            block.captionSpots (Item.captions item)) parsed items := by
  obtain ⟨items, hof, -⟩ := exists_items h
  refine ⟨items, hof, hof.imp fun p item hitem block hblock => ?_⟩
  rw [hitem.writtenAlike.block] at hblock
  exact ⟨block.captionSpots_sublist, Item.shows_captions hblock⟩

/-- A choice whose caption holds a double quote, in a list next to one of an unknown kind. -/
theorem captions_of_read_choice :
    ∃ block, Item.block ⟨⟨2, lit "Size", lit "size", none, false, false⟩,
          .select [⟨lit "5\" x", .text (lit "s")⟩]⟩ = .ok block ∧
      ∃ spot ∈ block.captionSpots, spot.value = lit "5\\\" x" ∧
        spot.read = (lit "5\\", some (lit " x\" value=\"s\"></el-option>")) := by
  obtain ⟨items, hof, hall⟩ := @captions_of_read
    [.object [(lit "id", .int 1), (lit "type", .text (lit "map")), (lit "label", .text (lit "\"")),
        (lit "field", .text (lit "map"))],
      .object [(lit "id", .int 2), (lit "type", .text (lit "select")),
        (lit "label", .text (lit "Size")), (lit "field", .text (lit "size")),
        (lit "options", .list [.object [(lit "label", .text (lit "5\" x")),
          (lit "value", .text (lit "s"))]])]]
    [.fresh ⟨⟨1, lit "\"", lit "map", none, false, false⟩, .unknown (lit "map")⟩,
      .fresh ⟨⟨2, lit "Size", lit "size", none, false, false⟩,
        .select [⟨lit "5\" x", .text (lit "s")⟩]⟩] rfl
  rcases hof with _ | ⟨⟨-⟩, _ | ⟨⟨-⟩, ⟨-⟩⟩⟩
  rcases hall with _ | ⟨-, _ | ⟨hsecond, -⟩⟩
  refine ⟨_, rfl, ?_⟩
  obtain ⟨-, hspots⟩ := hsecond _ rfl
  rcases hspots with _ | ⟨-, _ | ⟨-, _ | ⟨hcaption, -⟩⟩⟩
  refine ⟨_, List.mem_cons_of_mem _ (List.mem_cons_of_mem _ (List.mem_singleton.mpr rfl)),
    hcaption.value, ?_⟩
  exact hcaption.read_of_quote (lit "5") (lit " x") rfl (by decide)

/-- A label with double quotes in it on an input field. The line closes the attribute behind the
label, but the value that is read ends behind `Say`. -/
theorem label_closed_by_quote :
    ∃ block,
      readDescriptors
          [.object [(lit "id", .int 1), (lit "type", .text (lit "input")),
            (lit "label", .text (lit "Say \"Hi\"")), (lit "field", .text (lit "greeting"))]] =
        .ok [.fresh ⟨⟨1, lit "Say \"Hi\"", lit "greeting", none, false, false⟩, .input⟩] ∧
      Item.block ⟨⟨1, lit "Say \"Hi\"", lit "greeting", none, false, false⟩, .input⟩ = .ok block ∧
      lit "      label=\"Say \\\"Hi\\\"\"" ∈ Template.blockLines block ∧
      Text.cutAt doubleQuote (lit "Say \\\"Hi\\\"\"") =
        (lit "Say \\", some (lit "Hi\\\"\"")) ∧
      lit "Say \\" ≠ lit "Say \\\"Hi\\\"" := by
  refine ⟨_, rfl, rfl, ?_, by decide, by decide⟩
  exact List.mem_cons_of_mem _ List.mem_cons_self

end Formwright
