import Formwright.Proofs.Component.Built
import Formwright.Proofs.Script.Sections

/-!
Taking the file of a component apart at the lines that close its blocks. Every line of
the markup but the first and the last starts with a blank, and so does, if it is not
empty, every line of the script that an item contributes to. The closing lines start
otherwise, so each of them occurs once, wherever a field, a label or a choice holds such
a tag as text.
-/

namespace Formwright

open Text (toLines ofLines ofLedLines)

namespace Template

/-- Between the first and the last line of a markup every line starts with a blank. -/
theorem lines_eq (blocks : List Block) : ∃ inner, lines blocks =
    lit "<template>" :: inner ++ [lit "</template>"] ∧
      ∀ line ∈ inner, line.head? = some (.scalar ' ') := by
  have hfixed : ∀ line ∈ header.tail ++ footer.dropLast, line.head? = some (.scalar ' ') := by
    decide +kernel
  rw [List.forall_mem_append] at hfixed
  refine ⟨header.tail ++ blocks.flatMap blockLines ++ footer.dropLast, ?_, ?_⟩
  · simp [lines, header, footer]
  · simp only [List.forall_mem_append, List.forall_mem_flatMap]
    refine ⟨⟨hfixed.1, ?_⟩, hfixed.2⟩
    intro block _ line hline
    simp only [blockLines, List.mem_append, List.mem_cons, List.not_mem_nil, or_false] at hline
    rcases hline with ((rfl | rfl | rfl | rfl) | hline) | rfl
    case inl.inr =>
      have hindent := congrArg List.head? (indented_of_mem_widgetLines hline)
      rwa [List.head?_take] at hindent
    all_goals rfl

/-- A line that does not start with a blank occurs as often as among the first and the last. -/
theorem count_lines {blocks : List Block} {mark : Text} (hmark : ¬ Script.IsInner mark) :
    (lines blocks).count mark = [lit "<template>", lit "</template>"].count mark := by
  obtain ⟨inner, hlines, hinner⟩ := lines_eq blocks
  have hnone : inner.count mark = 0 := by
    apply List.count_eq_zero_of_not_mem
    exact Script.not_mem_of_isInner hmark fun line hline => .inr (hinner line hline)
  simp only [hlines, List.count_append, List.count_cons, List.count_nil, hnone]
  omega

theorem getLast?_lines (blocks : List Block) :
    (lines blocks).getLast? = some (lit "</template>") := by
  obtain ⟨inner, hlines, -⟩ := lines_eq blocks
  rw [hlines, List.getLast?_concat]

end Template

namespace Script

/-- The lines of a script that no item contributes to. -/
def fixedLines : List Text :=
  header ++ [interfaceOpening, lit "\x7d", [], lit "// Form data", dataOpening, closing, [],
    lit "// Form validation rules", rulesOpening, closing, []] ++ submission

variable {items : List Item}

/-- A line that is not empty and does not start with a blank is no item's. -/
theorem count_toLines_build (h : ∀ item ∈ items, newline ∉ item.field ∧ newline ∉ item.label)
    {mark : Text} (hmark : ¬ IsInner mark) :
    (toLines (build items)).count mark = fixedLines.count mark := by
  have hfield : ∀ item ∈ items, newline ∉ item.field := fun item hitem => (h item hitem).1
  have hnone {lines : List Text} (hinner : ∀ line ∈ lines, IsInner line) : lines.count mark = 0 :=
    List.count_eq_zero_of_not_mem (not_mem_of_isInner hmark hinner)
  have hmembers : (memberLines items).count mark = 0 := hnone isInner_memberLines
  have hdata := hnone (isInner_dataLines hfield)
  have hrules := hnone (isInner_ruleLines h)
  simp only [toLines_build h, fixedLines, List.count_append, List.count_cons, List.count_nil,
    hmembers, hdata, hrules]
  omega

theorem getLast?_toLines_build
    (h : ∀ item ∈ items, newline ∉ item.field ∧ newline ∉ item.label) :
    (toLines (build items)).getLast? = some (lit "</script>") := by
  rw [toLines_build h, List.getLast?_append_of_ne_nil _ (by simp)]
  rfl

end Script

namespace Component

/-- The file of a component cut at the first line that closes a template and the next that closes
a script, with one empty line between the two blocks: both blocks, and what is left behind them. -/
def apart? (file : Text) : Option (Text × Text × Text) :=
  match Text.upThrough? (lit "</template>") (toLines file) with
  | some (template, [] :: behind) =>
    (Text.upThrough? (lit "</script>") behind).map fun (script, rest) =>
      (ofLines template, ofLines script, ofLedLines rest)
  | _ => none

/-- The lines that open and close a template and a script. -/
def seams : List Text :=
  [lit "<template>", lit "</template>", lit "<script setup lang=\"ts\">", lit "</script>"]

theorem toLines_joinBlocks (block : Text) (blocks : List Text) :
    toLines (joinBlocks (block :: blocks)) =
      toLines block ++ blocks.flatMap (fun b => [] :: toLines b) ++ [[]] := by
  induction blocks generalizing block with
  | nil =>
    have hfile : joinBlocks [block] = block ++ newline :: [] := rfl
    rw [hfile, Text.toLines_append_newline]
    simp [toLines, Text.splitAt]
  | cons next blocks ih =>
    have hfile : joinBlocks (block :: next :: blocks) =
        block ++ newline :: ([] ++ newline :: joinBlocks (next :: blocks)) := by
      simp [joinBlocks, Text.joinWith]
    rw [hfile, Text.toLines_append_newline, Text.toLines_append_newline, ih]
    simp [toLines, Text.splitAt]

/-- The lines behind the script, from the empty line or the end of the file on. -/
def endLines (includeStyle : Bool) : List Text :=
  if includeStyle then [] :: toLines Style.build ++ [[]] else [[]]

theorem toLines_singleFile (markup script : Text) (includeStyle : Bool) :
    toLines (singleFile ⟨markup, script, if includeStyle then Style.build else []⟩) =
      toLines markup ++ [] :: (toLines script ++ endLines includeStyle) := by
  cases includeStyle with
  | false =>
    have hfile : singleFile ⟨markup, script, []⟩ = joinBlocks [markup, script] := rfl
    simp [hfile, toLines_joinBlocks, endLines]
  | true =>
    have hfile : singleFile ⟨markup, script, Style.build⟩ =
        joinBlocks [markup, script, Style.build] := rfl
    simp [hfile, toLines_joinBlocks, endLines]

theorem ofLedLines_endLines (includeStyle : Bool) :
    ofLedLines (endLines includeStyle) =
      newline :: if includeStyle then newline :: Style.build ++ [newline] else [] := by
  cases includeStyle with
  | false => rfl
  | true =>
    have hlines : toLines Style.build ≠ [] := Text.splitAt_ne_nil newline Style.build
    have hstyle : ofLedLines (toLines Style.build) = newline :: Style.build := by
      rw [Text.ofLedLines_eq hlines, Text.ofLines_toLines]
    have hfirst : ofLedLines ([] :: toLines Style.build) =
        newline :: ofLedLines (toLines Style.build) := rfl
    rw [endLines, if_pos rfl, if_pos rfl, Text.ofLedLines_append, hfirst, hstyle]
    rfl

section

variable {items : List Item} {markup : Text}

/-- The markup of items on one line each has the lines of its blocks. -/
theorem toLines_template (h : Template.build items = .ok markup)
    (hitems : ∀ item ∈ items, item.IsOneLine) :
    ∃ blocks, toLines markup = Template.lines blocks := by
  obtain ⟨blocks, hblocks, rfl⟩ := Template.build_eq_ok.mp h
  have hlines := Template.lines_of_items_generated .oneLine hblocks hitems
  exact ⟨blocks, Text.toLines_ofLines (by simp [Template.lines, Template.header]) hlines⟩

/-- The blocks of a file come back from it as they are. -/
theorem apart?_singleFile (h : Template.build items = .ok markup)
    (hitems : ∀ item ∈ items, item.IsOneLine) (includeStyle : Bool) :
    apart? (singleFile ⟨markup, Script.build items, if includeStyle then Style.build else []⟩) =
      some (markup, Script.build items,
        newline :: if includeStyle then newline :: Style.build ++ [newline] else []) := by
  have hnames : ∀ item ∈ items, newline ∉ item.field ∧ newline ∉ item.label :=
    fun item hitem => (hitems item hitem).names
  obtain ⟨blocks, hblocks⟩ := toLines_template h hitems
  have htemplate := Text.upThrough?_of_count (Template.getLast?_lines blocks)
    (Template.count_lines (by decide))
    ([] :: (toLines (Script.build items) ++ endLines includeStyle))
  have hscript := Text.upThrough?_of_count (Script.getLast?_toLines_build hnames)
    ((Script.count_toLines_build hnames (by decide)).trans (by decide +kernel))
    (endLines includeStyle)
  rw [← hblocks] at htemplate
  simp only [apart?, toLines_singleFile, htemplate, hscript, Option.map_some, Text.ofLines_toLines,
    ofLedLines_endLines]

/-- No tag in the texts of the items looks like a line that opens or closes a block. -/
theorem count_seams (h : Template.build items = .ok markup)
    (hitems : ∀ item ∈ items, item.IsOneLine) (includeStyle : Bool) :
    ∀ mark ∈ seams, (toLines (singleFile
      ⟨markup, Script.build items, if includeStyle then Style.build else []⟩)).count mark = 1 := by
  have hinner : ∀ mark ∈ seams, ¬ Script.IsInner mark := by decide
  have hfixed : ∀ mark ∈ seams, [lit "<template>", lit "</template>"].count mark +
      Script.fixedLines.count mark = 1 ∧ (endLines includeStyle).count mark = 0 ∧ mark ≠ [] := by
    cases includeStyle <;> decide +kernel
  have hnames : ∀ item ∈ items, newline ∉ item.field ∧ newline ∉ item.label :=
    fun item hitem => (hitems item hitem).names
  obtain ⟨blocks, hblocks⟩ := toLines_template h hitems
  intro mark hmark
  obtain ⟨hcount, hend, hne⟩ := hfixed mark hmark
  rw [toLines_singleFile, hblocks, List.count_append, Template.count_lines (hinner mark hmark),
    List.count_cons_of_ne hne.symm, List.count_append,
    Script.count_toLines_build hnames (hinner mark hmark), hend]
  exact hcount

end

/-- The file of a component can be taken apart again. For documents that describe items on one line
each, the file cut at its closing lines gives the template, the script and then the style if it was
asked for; each line that opens or closes a template or a script stands in it once; and there is a
file unless a number is past the limit. -/
theorem apart_of_describes {documents : List Json} {items : List Item} {includeStyle : Bool}
    (h : Describes documents items) (hitems : ∀ item ∈ items, item.IsOneLine) :
    (∀ c, Descriptors.component (.list (valuesOfJson documents)) includeStyle = .ok c →
      apart? c.singleFile = some (c.template, c.script,
        newline :: if includeStyle then newline :: c.style ++ [newline] else []) ∧
      Template.build items = .ok c.template ∧ c.script = Script.build items ∧
      (includeStyle → c.style = Style.build) ∧
      ∀ mark ∈ seams, (toLines c.singleFile).count mark = 1) ∧
      ((∃ c, Descriptors.component (.list (valuesOfJson documents)) includeStyle = .ok c) ↔
        ∀ item ∈ items, item.NumbersFit) := by
  simp only [Descriptors.component_eq_of_describes h, Outcome.mapError_eq_ok]
  refine ⟨?_, exists_build_iff_of_describes h includeStyle⟩
  intro c hc
  obtain ⟨markup, hmarkup, rfl⟩ := build_eq_ok.mp hc
  have hparts := apart?_singleFile hmarkup hitems includeStyle
  have hcounts := count_seams hmarkup hitems includeStyle
  cases includeStyle with
  | false => exact ⟨hparts, hmarkup, rfl, by simp, hcounts⟩
  | true => exact ⟨hparts, hmarkup, rfl, fun _ => rfl, hcounts⟩

/-- Closing tags in a label and in a choice do not end a block. -/
theorem apart_of_describes_tags :
    ∃ c, Descriptors.component (.list (valuesOfJson [.ofMembers [("id", .int 1),
          ("type", .ofString "radio"), ("label", .ofString "</template>"),
          ("field", .ofString "</script>"), ("options", .array [.ofMembers
            [("label", .ofString "<template>"), ("value", .ofString "</template>")]])]])) true =
        .ok c ∧
      apart? c.singleFile = some (c.template, c.script,
        newline :: newline :: c.style ++ [newline]) ∧
      (toLines c.singleFile).count (lit "</template>") = 1 := by
  have hread : Describes
      [.ofMembers [("id", .int 1), ("type", .ofString "radio"), ("label", .ofString "</template>"),
        ("field", .ofString "</script>"), ("options", .array [.ofMembers
          [("label", .ofString "<template>"), ("value", .ofString "</template>")]])]]
      [⟨⟨1, lit "</template>", lit "</script>", none, false, false⟩,
        .radio [⟨lit "<template>", .text (lit "</template>")⟩]⟩] := rfl
  obtain ⟨hapart, hfit⟩ := @apart_of_describes _ _ true hread (by unfold Item.IsOneLine; decide)
  obtain ⟨c, hc⟩ := hfit.mpr (by
    simp [Item.NumbersFit, Control.numbers, Control.choices, Control.options?, Choice.number?])
  obtain ⟨hparts, -, -, -, hcount⟩ := hapart c hc
  exact ⟨c, hc, hparts, hcount _ (by simp [seams])⟩

end Component

end Formwright
