import Formwright.Proofs.Markup.Block
import Formwright.Proofs.Text.Guards
import Formwright.Proofs.Text.Lines
import Formwright.Proofs.Text.Parts
import Mathlib.Data.List.Induction

/-!
Reading markup line by line: the wrappers of the items, and in each of them the
property, whether it is required, the tag of the control and what the control is
bound to. A binding is read from the back of its line, since the values behind it
are guarded and the name of a field may hold anything.
-/

namespace Formwright

open Text (doubleQuote backslash inside?)

namespace Template

/-- The lines inside the wrappers of a markup, wrapper by wrapper. -/
def wrappers (markup : Text) : List (List Text) :=
  Text.groups (lit "    <el-form-item") (lit "    </el-form-item>") (Text.toLines markup)

end Template

namespace Kind

/-- The tag that controls of a kind are written with. -/
def tag : Kind → Text
  | input | textarea => lit "el-input"
  | number => lit "el-input-number"
  | select => lit "el-select"
  | radio => lit "el-radio-group"
  | checkbox => lit "el-checkbox-group"
  | date => lit "el-date-picker"
  | switch => lit "el-switch"

end Kind

namespace Wrapper

def prop? (wrapper : List Text) : Option Text :=
  wrapper.findSome? (inside? (lit "      prop=\"") (lit "\""))

def required? (wrapper : List Text) : Option Text :=
  wrapper.findSome? (inside? (lit "      :required=\"") (lit "\">"))

/-- The name of the tag that a line opens. -/
def tagIn (line : Text) : Text :=
  (line.drop 7).takeWhile (· ≠ .scalar ' ')

/-- The tag of the control, which follows the three lines of the wrapper itself. -/
def tag? (wrapper : List Text) : Option Text :=
  (wrapper.drop 3).head?.map tagIn

/-- How many attributes stand behind the binding on its line, by the tag of the control. -/
def attributeCount (tag : Text) : Nat :=
  if tag = lit "el-date-picker" then 0
  else if tag = lit "el-input" ∨ tag = lit "el-select" then 2
  else if tag = lit "el-input-number" then 3
  else 1

/-- The reverse of a line without the value it starts with: up to the first double quote that has
no backslash in front. -/
def dropValue : Text → Text
  | [] => []
  | c :: rest => if c = doubleQuote ∧ rest.head? ≠ some backslash then rest else dropValue rest

/-- The reverse of a line up to the next double quote. -/
def dropToQuote (reversed : Text) : Text :=
  reversed.dropWhile (· ≠ doubleQuote)

/-- The reverse of a line without the value of its last attribute. -/
def dropAttribute (reversed : Text) : Text :=
  dropValue ((dropToQuote reversed).drop 1)

def dropAttributes : (count : Nat) → Text → Text
  | 0, reversed => reversed
  | count + 1, reversed => dropAttributes count (dropAttribute reversed)

/-- What a line binds its control to when `count` attributes stand behind the binding. -/
def bindingIn? (count : Nat) (line : Text) : Option Text :=
  let front := (dropToQuote (dropAttributes count line.reverse)).drop 1
  (front.reverse.dropInfix? (lit "v-model=\"")).map Prod.snd

/-- What the control is bound to. -/
def binding? (wrapper : List Text) : Option Text :=
  (tag? wrapper).bind fun tag => (wrapper.drop 3).findSome? (bindingIn? (attributeCount tag))

end Wrapper

namespace Text

/-- Whether a backslash stands in front of every double quote. -/
def IsGuarded (t : Text) : Prop :=
  ∀ front rest, t = front ++ doubleQuote :: rest → front.getLast? = some backslash

theorem isGuarded_of_not_mem {t : Text} (h : doubleQuote ∉ t) : t.IsGuarded := by
  intro front rest ht
  exact absurd (by simp [ht]) h

theorem isGuarded_escape (t : Text) : t.escape.IsGuarded :=
  fun front rest h => isEscaped_escape t front doubleQuote rest h (.inr rfl)

end Text

namespace Wrapper

theorem dropToQuote_append {s : Text} (h : doubleQuote ∉ s) (t : Text) :
    dropToQuote (s ++ doubleQuote :: t) = doubleQuote :: t :=
  Mark.dropWhile_append h t

/-- A guarded value ends, read from its back, at the double quote in front of it. -/
theorem dropValue_append {c : CodePoint} (hc : c ≠ backslash) {reversed : Text}
    (h : Text.IsGuarded reversed.reverse) (rest : Text) :
    dropValue (reversed ++ doubleQuote :: c :: rest) = c :: rest := by
  induction reversed with
  | nil => simp [dropValue, hc]
  | cons d reversed ih =>
    have htail : Text.IsGuarded reversed.reverse := by
      intro front behind hsplit
      exact h front (behind ++ [d]) (by simp [hsplit])
    rw [List.cons_append, dropValue]
    split
    · rename_i hstop
      obtain ⟨rfl, hhead⟩ := hstop
      have hlast := h reversed.reverse [] (by simp)
      rw [List.getLast?_reverse] at hlast
      rw [List.head?_append, hlast] at hhead
      exact absurd rfl hhead
    · exact ih htail

/-- Reading from its back, a line is cut just behind the binding when as many attributes are taken
off as stand there. -/
theorem dropAttributes_line {front ending : Text} {attributes : List (Text × Text)}
    (hending : doubleQuote ∉ ending)
    (h : ∀ a ∈ attributes, doubleQuote ∉ a.1 ∧ a.2.IsGuarded) :
    dropToQuote (dropAttributes attributes.length
        (front ++ [doubleQuote] ++ OpeningTag.attributesText attributes ++ ending).reverse) =
      doubleQuote :: front.reverse := by
  induction attributes using List.reverseRecOn generalizing ending with
  | nil =>
    have hline : (front ++ [doubleQuote] ++ OpeningTag.attributesText [] ++ ending).reverse =
        ending.reverse ++ doubleQuote :: front.reverse := by
      simp [OpeningTag.attributesText]
    rw [hline]
    exact dropToQuote_append (by simpa using hending) front.reverse
  | append_singleton attributes last ih =>
    obtain ⟨name, value⟩ := last
    rw [List.forall_mem_append, List.forall_mem_singleton] at h
    obtain ⟨hrest, hname, hvalue⟩ := h
    -- The line read up to the last attribute is the line with that attribute's name as its end.
    have hline : (front ++ [doubleQuote] ++
          OpeningTag.attributesText (attributes ++ [(name, value)]) ++ ending).reverse =
        ending.reverse ++ doubleQuote :: (value.reverse ++ doubleQuote :: .scalar '=' ::
          (front ++ [doubleQuote] ++ OpeningTag.attributesText attributes ++
            (lit " " ++ name)).reverse) := by
      simp [OpeningTag.attributesText, Template.attr, lit, doubleQuote]
    have hback : doubleQuote ∉ lit " " ++ name ++ lit "=" := by
      intro hmem
      rcases List.mem_append.mp hmem with hmem | hmem
      · rcases List.mem_append.mp hmem with hmem | hmem
        · exact absurd hmem (by decide)
        · exact hname hmem
      · exact absurd hmem (by decide)
    have hdrop : dropAttribute (front ++ [doubleQuote] ++
          OpeningTag.attributesText (attributes ++ [(name, value)]) ++ ending).reverse =
        (front ++ [doubleQuote] ++ OpeningTag.attributesText attributes ++
          (lit " " ++ name ++ lit "=")).reverse := by
      rw [hline, dropAttribute, dropToQuote_append (by simpa using hending), List.drop_one,
        List.tail_cons, dropValue_append (by decide) (by simpa using hvalue)]
      simp [lit]
    rw [List.length_append, List.length_singleton, dropAttributes, hdrop]
    exact ih hback hrest

/-- The binding is read off a line whose attributes behind it are guarded. -/
theorem bindingIn?_line {tag : OpeningTag} (field : Text) (hstart : .scalar 'v' ∉ tag.start)
    (hending : doubleQuote ∉ tag.ending)
    (h : ∀ a ∈ tag.attributes, doubleQuote ∉ a.1 ∧ a.2.IsGuarded) :
    bindingIn? tag.attributes.length (tag.line field) = some (lit "formData." ++ field) := by
  have hline : tag.line field = (tag.start ++ lit "v-model=\"" ++ (lit "formData." ++ field)) ++
      [doubleQuote] ++ OpeningTag.attributesText tag.attributes ++ tag.ending := by
    simp [OpeningTag.line, Template.bindingTo, Template.attr, lit, doubleQuote]
  have hfound : (tag.start ++ lit "v-model=\"" ++ (lit "formData." ++ field)).dropInfix?
      (lit "v-model=\"") = some (tag.start, lit "formData." ++ field) :=
    Text.dropInfix?_append hstart _
  simp only [hline, bindingIn?, dropAttributes_line hending h, List.drop_one, List.tail_cons,
    List.reverse_reverse, hfound, Option.map_some]

end Wrapper

namespace Widget

/-- Whether every value on the line of the binding, the binding apart, is guarded. -/
def IsGuarded (widget : Widget) : Prop :=
  ∀ tag, widget.openingTag? = some tag → ∀ a ∈ tag.attributes, a.2.IsGuarded

theorem openingTag?_fixed {widget : Widget} {tag : OpeningTag}
    (h : widget.openingTag? = some tag) :
    .scalar 'v' ∉ tag.start ∧ doubleQuote ∉ tag.ending ∧
      ∀ a ∈ tag.attributes, doubleQuote ∉ a.1 := by
  cases widget <;> simp only [openingTag?, Option.some.injEq, reduceCtorEq] at h <;> subst h
  case group style disabled options =>
    refine ⟨?_, by simp [lit, doubleQuote], by simp [lit, doubleQuote]⟩
    cases style <;> simp [lit, GroupStyle.tag]
  all_goals
    refine ⟨?_, ?_, ?_⟩
    · simp [lit]
    · simp [lit, doubleQuote]
    · simp [lit, doubleQuote]

/-- The line of the binding opens the tag of the control's kind, and that tag tells how many
attributes follow. -/
theorem tag_of_openingTag? {widget : Widget} {tag : OpeningTag}
    (h : widget.openingTag? = some tag) (field : Text) :
    ∃ kind, widget.kind? = some kind ∧ Wrapper.tagIn (tag.line field) = kind.tag ∧
      Wrapper.attributeCount kind.tag = tag.attributes.length := by
  cases widget <;> simp only [openingTag?, Option.some.injEq, reduceCtorEq] at h <;> subst h
  case group style disabled options => cases style <;> exact ⟨_, rfl, rfl, rfl⟩
  all_goals
    exact ⟨_, rfl, rfl, rfl⟩

end Widget

namespace Block

/-- The lines inside the wrapper of a block. -/
def innerLines (block : Block) : List Text :=
  [lit "      " ++ Template.attr (lit "label") block.label,
    lit "      " ++ Template.attr (lit "prop") block.field,
    lit "      " ++ Template.attr (lit ":required") block.required ++ lit ">"] ++
  Template.widgetLines block.field block.widget

theorem prop?_innerLines (block : Block) : Wrapper.prop? block.innerLines = some block.field := by
  have hlabel : inside? (lit "      prop=\"") (lit "\"")
      (lit "      " ++ Template.attr (lit "label") block.label) = none := rfl
  have hprop : inside? (lit "      prop=\"") (lit "\"")
      (lit "      " ++ Template.attr (lit "prop") block.field) = some block.field :=
    Text.inside?_append (lit "      prop=\"") block.field (lit "\"")
  simp only [Wrapper.prop?, innerLines, List.cons_append, List.findSome?_cons, hlabel, hprop]

theorem required?_innerLines (block : Block) :
    Wrapper.required? block.innerLines = some block.required := by
  have hlabel : inside? (lit "      :required=\"") (lit "\">")
      (lit "      " ++ Template.attr (lit "label") block.label) = none := rfl
  have hprop : inside? (lit "      :required=\"") (lit "\">")
      (lit "      " ++ Template.attr (lit "prop") block.field) = none := rfl
  have hline : lit "      " ++ Template.attr (lit ":required") block.required ++ lit ">" =
      lit "      :required=\"" ++ block.required ++ lit "\">" := by
    simp [Template.attr, lit]
  have hrequired : inside? (lit "      :required=\"") (lit "\">")
      (lit "      " ++ Template.attr (lit ":required") block.required ++ lit ">") =
        some block.required := by
    rw [hline]
    exact Text.inside?_append (lit "      :required=\"") block.required (lit "\">")
  simp only [Wrapper.required?, innerLines, List.cons_append, List.findSome?_cons, hlabel, hprop,
    hrequired]

theorem drop_innerLines (block : Block) :
    block.innerLines.drop 3 = Template.widgetLines block.field block.widget :=
  rfl

/-- The tag in a wrapper is that of the control's kind; without a control there is none. -/
theorem tag?_innerLines (block : Block) :
    Wrapper.tag? block.innerLines = block.widget.kind?.map Kind.tag := by
  rw [Wrapper.tag?, drop_innerLines]
  cases htag : block.widget.openingTag? with
  | some tag =>
    obtain ⟨kind, hkind, htagIn, -⟩ := Widget.tag_of_openingTag? htag block.field
    rw [Widget.widgetLines_of_openingTag? htag, List.head?_cons, Option.map_some, htagIn, hkind,
      Option.map_some]
  | none =>
    cases hwidget : block.widget with
    | absent => rfl
    | date placeholder disabled => rfl
    | input | textarea | number | select | group | switch =>
      simp [hwidget, Widget.openingTag?] at htag

/-- A control is bound to the property of its wrapper. -/
theorem binding?_innerLines {block : Block} (h : block.widget.IsGuarded)
    (hwidget : block.widget.kind? ≠ none) :
    Wrapper.binding? block.innerLines = some (lit "formData." ++ block.field) := by
  rw [Wrapper.binding?, tag?_innerLines, drop_innerLines]
  cases htag : block.widget.openingTag? with
  | some tag =>
    obtain ⟨kind, hkind, -, hcount⟩ := Widget.tag_of_openingTag? htag block.field
    obtain ⟨hstart, hending, hnames⟩ := Widget.openingTag?_fixed htag
    have hbinding := Wrapper.bindingIn?_line block.field hstart hending
      fun a ha => ⟨hnames a ha, h tag htag a ha⟩
    rw [hkind, Option.map_some, Option.bind_some, Widget.widgetLines_of_openingTag? htag, hcount,
      List.findSome?_cons, hbinding]
  | none =>
    cases hkind : block.widget with
    | absent => simp [hkind, Widget.kind?] at hwidget
    | date placeholder disabled =>
      have hfirst : Wrapper.bindingIn? 0 (lit "      <el-date-picker") = none := rfl
      have hline := @Wrapper.bindingIn?_line ⟨lit "        ", [], []⟩ block.field (by decide)
        (by simp) (by simp)
      have hbinding : Wrapper.bindingIn? 0 (lit "        " ++ Template.bindingTo block.field) =
          some (lit "formData." ++ block.field) := by
        simpa [OpeningTag.line, OpeningTag.attributesText] using hline
      have hcount : Wrapper.attributeCount Kind.date.tag = 0 := rfl
      simp only [Widget.kind?, Option.map_some, Option.bind_some, Template.widgetLines, hcount,
        List.findSome?_cons, hfirst, hbinding]
    | input | textarea | number | select | group | switch =>
      simp [hkind, Widget.openingTag?] at htag

end Block

namespace Template

theorem indented_of_mem_innerLines {block : Block} {line : Text} (h : line ∈ block.innerLines) :
    line.take 6 = lit "      " := by
  rcases List.mem_append.mp h with h | h
  · simp only [List.mem_cons, List.not_mem_nil, or_false] at h
    rcases h with rfl | rfl | rfl <;> rfl
  · exact indented_of_mem_widgetLines h

theorem wrappers_of_lines {blocks : List Block} :
    Text.groups (lit "    <el-form-item") (lit "    </el-form-item>")
      (blocks.flatMap blockLines ++ footer) = blocks.map Block.innerLines := by
  induction blocks with
  | nil =>
    have hfooter : lit "    <el-form-item" ∉ footer := by decide +kernel
    have hgroups : Text.groups (lit "    <el-form-item") (lit "    </el-form-item>")
        (footer ++ []) = [] := Text.groups_append_of_not_mem hfooter []
    rw [List.flatMap_nil, List.nil_append, List.map_nil]
    rwa [List.append_nil] at hgroups
  | cons block blocks ih =>
    have hclosing : lit "    </el-form-item>" ∉ block.innerLines := by
      intro hmem
      exact absurd (indented_of_mem_innerLines hmem) (by decide)
    have hlines : (block :: blocks).flatMap blockLines ++ footer =
        lit "    <el-form-item" :: block.innerLines ++
          lit "    </el-form-item>" :: (blocks.flatMap blockLines ++ footer) := by
      simp [blockLines, Block.innerLines]
    rw [hlines, Text.groups_cons_append hclosing, ih, List.map_cons]

/-- The wrappers of a markup hold the lines of its blocks, one by one. -/
theorem wrappers_ofBlocks {blocks : List Block} (h : ∀ line ∈ lines blocks, newline ∉ line) :
    wrappers (ofBlocks blocks) = blocks.map Block.innerLines := by
  have hheader : lit "    <el-form-item" ∉ header := by decide +kernel
  rw [wrappers, ofBlocks, Text.toLines_ofLines (by simp [lines, header]) h, lines,
    List.append_assoc, Text.groups_append_of_not_mem hheader, wrappers_of_lines]

end Template

end Formwright
