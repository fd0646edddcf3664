import Formwright.Proofs.Markup.Layout
import Formwright.Proofs.Markup.Tags
import Formwright.Proofs.Text.Lines

/-!
The layouts of markup told by their tags. A block, a choice and a control are each a start
tag, what it contains and an end tag, on lines that are indented further the deeper they
stand; so the lines read as one element behind a text of blanks.
-/

namespace Formwright

namespace Text

/-- A line break and the blanks in front of what stands `n` columns in. -/
def indent (n : Nat) : Text :=
  newline :: List.replicate n (.scalar ' ')

end Text

open Text (indent ofLedLines)
open Markup (ReadsAs IsAttribute IsGap IsName startTag endTag)
open Template (attr)

/-- Children on lines of their own, in an element that stands `n` columns in. -/
def Node.spread (n : Nat) (children : List Node) : List Node :=
  children.flatMap (fun child => [.text (indent (n + 2)), child]) ++ [.text (indent n)]

/-- The attribute that binds a control to a field. -/
def Template.binding (field : Text) : Text × Text :=
  (lit "v-model", lit "formData." ++ field)

namespace Markup

theorem isGap_indent (n : Nat) : IsGap (indent n) := by
  refine ⟨List.cons_ne_nil _ _, ?_⟩
  intro c hc
  rcases List.mem_cons.mp hc with rfl | hc
  · decide
  · rw [List.eq_of_mem_replicate hc]
    decide

theorem not_mem_indent (n : Nat) : .scalar '<' ∉ indent n := by
  intro hmem
  have hblank := (isGap_indent n).2 _ hmem
  exact absurd hblank (by decide)

section

variable {gap name inner : Text} {attributes : List (Text × Text)}

/-- An element whose children stand on lines of their own. -/
theorem readsAs_spread {n : Nat} {children : List Node} (hgap : IsGap gap) (hname : IsName name)
    (hattributes : ∀ a ∈ attributes, IsAttribute a)
    (hinner : ReadsAs inner (children.flatMap fun child => [.text (indent (n + 2)), child])) :
    ReadsAs (indent n ++ startTag gap name attributes ++ inner ++ indent n ++ endTag name)
      [.text (indent n), .element name attributes (Node.spread n children)] :=
  readsAs_element hgap hname hattributes hinner (not_mem_indent n) (not_mem_indent n)

/-- An element that contains nothing but a text. -/
theorem readsAs_leaf {n : Nat} {t : Text} (hname : IsName name)
    (hattributes : ∀ a ∈ attributes, IsAttribute a) (ht : .scalar '<' ∉ t) :
    ReadsAs (indent n ++ startTag (lit " ") name attributes ++ t ++ endTag name)
      [.text (indent n), .element name attributes (Node.ofText t)] := by
  have hall := readsAs_element (by decide : IsGap (lit " ")) hname hattributes readsAs_nil
    (not_mem_indent n) ht
  rwa [List.append_nil] at hall

end

end Markup

namespace Template

/-! The layouts, told by their tags. -/

theorem selectOption_eq (o : OptionText) : newline :: selectOption o =
    indent 8 ++ startTag (lit " ") (lit "el-option") [(lit "label", o.caption),
      (lit "value", o.value)] ++ [] ++ endTag (lit "el-option") := by
  have hline : newline :: selectOption o = (newline :: lit "        <el-option ") ++
      attr (lit "label") o.caption ++ lit " " ++ attr (lit "value") o.value ++
      lit "></el-option>" := rfl
  have hstart : newline :: lit "        <el-option " =
      indent 8 ++ (lit "<" ++ (lit "el-option" ++ lit " ")) := rfl
  have hend : lit "></el-option>" = lit ">" ++ endTag (lit "el-option") := rfl
  rw [hline, hstart, hend]
  simp [startTag, Markup.attributesText]

theorem groupOption_eq (tag : Text) (o : OptionText) : newline :: groupOption tag o =
    indent 8 ++ startTag (lit " ") tag [(lit "label", o.value)] ++ o.caption ++ endTag tag := by
  have hline : newline :: groupOption tag o = (newline :: lit "        <") ++ tag ++ lit " " ++
      attr (lit "label") o.value ++ lit ">" ++ o.caption ++ lit "</" ++ tag ++ lit ">" := rfl
  have hstart : newline :: lit "        <" = indent 8 ++ lit "<" := rfl
  rw [hline, hstart]
  simp [startTag, endTag, Markup.attributesText]

theorem dateLines_eq (field placeholder disabled : Text) :
    ofLedLines (widgetLines field (.date placeholder disabled)) =
      indent 6 ++ startTag (indent 8) (lit "el-date-picker") [binding field,
        (lit "type", lit "date"), (lit "placeholder", placeholder), (lit ":disabled", disabled)] ++
        [] ++ indent 6 ++ endTag (lit "el-date-picker") := by
  have hopening : newline :: lit "      <el-date-picker" =
      indent 6 ++ (lit "<" ++ lit "el-date-picker") := rfl
  have htype : newline :: lit "        type=\"date\"" =
      indent 8 ++ attr (lit "type") (lit "date") := rfl
  have hattr (t : Text) : newline :: (lit "        " ++ t) = indent 8 ++ t := rfl
  have hclosing : newline :: lit "      </el-date-picker>" =
      indent 6 ++ endTag (lit "el-date-picker") := rfl
  simp [widgetLines, ofLedLines, hopening, htype, hattr, hclosing, startTag,
    Markup.attributesText, bindingTo, binding]

theorem blockLines_eq (block : Block) : ofLedLines (blockLines block) =
    indent 4 ++ startTag (indent 6) (lit "el-form-item") [(lit "label", block.label),
      (lit "prop", block.field), (lit ":required", block.required)] ++
      ofLedLines (widgetLines block.field block.widget) ++ indent 4 ++
      endTag (lit "el-form-item") := by
  have hopening : newline :: lit "    <el-form-item" =
      indent 4 ++ (lit "<" ++ lit "el-form-item") := rfl
  have hattr (t : Text) : newline :: (lit "      " ++ t) = indent 6 ++ t := rfl
  have hclosing : newline :: lit "    </el-form-item>" =
      indent 4 ++ endTag (lit "el-form-item") := rfl
  simp [blockLines, ofLedLines, hopening, hattr, hclosing, startTag, Markup.attributesText]

end Template

namespace OpeningTag

/-- Whether a tag opens an element `name`, with attributes `before` the binding of the field and
`rest` behind the tag. -/
def Opens (tag : OpeningTag) (name : Text) (before : List (Text × Text)) (rest : Text) : Prop :=
  newline :: tag.start =
      indent 6 ++ (lit "<" ++ name ++ Markup.attributesText (lit " ") before ++ lit " ") ∧
    tag.ending = lit ">" ++ rest

variable {tag : OpeningTag} {name rest : Text} {before : List (Text × Text)}

theorem Opens.line_eq (h : tag.Opens name before rest) (field : Text) :
    newline :: tag.line field = indent 6 ++ startTag (lit " ") name
      (before ++ Template.binding field :: tag.attributes) ++ rest := by
  have hline : newline :: tag.line field = (newline :: tag.start) ++ Template.bindingTo field ++
      OpeningTag.attributesText tag.attributes ++ tag.ending := rfl
  rw [hline, h.1, h.2]
  simp [startTag, Markup.attributesText, Template.bindingTo, Template.binding,
    OpeningTag.attributesText]

section

-- What both kinds of control say of a tag: its name and its attributes can be read.
variable {field : Text} {widget : Widget} (hname : IsName name)
  (hattributes : ∀ a ∈ before ++ Template.binding field :: tag.attributes,
    IsAttribute a)

include hname hattributes

theorem Opens.readsAs_leaf (h : tag.Opens name before (endTag name))
    (htag : widget.openingTag? = some tag) (hbody : widget.body = []) :
    ReadsAs (ofLedLines (Template.widgetLines field widget)) [.text (indent 6),
      .element name (before ++ Template.binding field :: tag.attributes) []] := by
  have htext : ofLedLines (Template.widgetLines field widget) = newline :: tag.line field := by
    rw [Widget.widgetLines_of_openingTag? htag, hbody]
    exact List.append_nil _
  have hread := @Markup.readsAs_leaf name _ 6 [] hname hattributes (by simp)
  rw [List.append_nil] at hread
  rw [htext, h.line_eq]
  exact hread

theorem Opens.readsAs_spread (h : tag.Opens name before [])
    (htag : widget.openingTag? = some tag) {lines : List Text} {closing : Text}
    (hbody : widget.body = lines ++ [closing])
    (hclosing : newline :: closing = indent 6 ++ endTag name) {children : List Node}
    (hlines : ReadsAs (ofLedLines lines)
      (children.flatMap fun child => [.text (indent 8), child])) :
    ReadsAs (ofLedLines (Template.widgetLines field widget)) [.text (indent 6),
      .element name (before ++ Template.binding field :: tag.attributes)
        (Node.spread 6 children)] := by
  have hlast : ofLedLines [closing] = newline :: closing := List.append_nil _
  have htext : ofLedLines (Template.widgetLines field widget) =
      newline :: tag.line field ++ (ofLedLines lines ++ (newline :: closing)) := by
    rw [Widget.widgetLines_of_openingTag? htag, hbody, ← hlast, ← Text.ofLedLines_append]
    rfl
  have hread := Markup.readsAs_spread (by decide : IsGap (lit " ")) hname hattributes hlines
  rw [htext, h.line_eq, hclosing]
  simpa using hread

end

end OpeningTag

end Formwright
