import Formwright.Component.Basic
import Formwright.Proofs.Markup.Block
import Formwright.Surface.Tool

/-!
The texts of a component as wholes. Where a property may pass a line feed, each of
the texts takes it over from the texts of the items.
-/

namespace Formwright

open Text (IsPlain Framing)

variable {given generated : Text → Prop}

namespace DataShape

theorem isPlain (kind : Option Kind) :
    (ofKind? kind).type.IsPlain ∧ (ofKind? kind).initial.IsPlain := by
  cases kind with
  | none => decide
  | some kind => cases kind <;> decide

end DataShape

theorem isPlain_checkEvent (kind : Option Kind) : (checkEvent kind).IsPlain := by
  rw [checkEvent]
  split <;> decide

namespace Script

/-- The script takes over what holds of the fields and the labels. -/
theorem build_generated (frame : Framing given generated) (hbreak : generated [newline])
    {items : List Item} (h : ∀ item ∈ items, given item.field ∧ given item.label) :
    generated (build items) := by
  have hplain {t : Text} (ht : t.IsPlain) : generated t := frame.fixed ht
  have hfixed : ∀ line ∈ header ++ submission ++ [interfaceOpening, lit "\x7d", [],
      lit "// Form data", dataOpening, closing, lit "// Form validation rules", rulesOpening],
      line.IsPlain := by decide +kernel
  simp only [List.forall_mem_append, List.forall_mem_cons] at hfixed
  obtain ⟨⟨hheader, hsubmission⟩, hinterface, hbrace, hempty, hdata, hdataOpening, hclosing, hrules,
    hrulesOpening, -⟩ := hfixed
  have hinner : ∀ item ∈ items, generated (lit "  " ++ item.field ++ lit ": ") := by
    intro item hitem
    exact frame.framed (by decide) (by simp [lit]) (h item hitem).1 (by decide) (by simp [lit])
  have hmembers : ∀ line ∈ (items.map Item.member).map interfaceMember, generated line := by
    simp only [List.map_map, List.forall_mem_map]
    intro item hitem
    have htype := (DataShape.isPlain item.kind?).1
    exact frame.append (frame.append (hinner item hitem) (hplain htype)) (hplain (by decide))
  have hentries : ∀ line ∈ (items.map Item.member).map dataEntry, generated line := by
    simp only [List.map_map, List.forall_mem_map]
    intro item hitem
    exact frame.append (hinner item hitem) (hplain (DataShape.isPlain item.kind?).2)
  have hruleEntries : ∀ entry ∈ ((items.filter (·.required)).map Item.rule).map ruleEntry,
      generated entry := by
    simp only [List.map_map, List.forall_mem_map]
    intro item hitem
    obtain ⟨hfield, hlabel⟩ := h item (List.mem_of_mem_filter hitem)
    apply frame.joinWith hbreak
    simp only [List.forall_mem_cons]
    refine ⟨?_, ?_, hplain (by decide), by simp⟩
    · exact frame.framed (by decide) (by simp [lit]) hfield (by decide) (by simp [lit])
    · have hmessage : given (ruleMessage item.rule) :=
        frame.prompted (by decide) (frame.escaped hlabel)
      have hfront := frame.framed (s := lit "    \x7b required: true, message: '")
        (t := lit "', trigger: '") (by decide) (by simp [lit]) hmessage (by decide) (by simp [lit])
      exact frame.append (frame.append hfront (hplain (isPlain_checkEvent item.kind?)))
        (hplain (by decide))
  have hseparator : generated (lit "," ++ [newline]) := frame.append (hplain (by decide)) hbreak
  apply frame.joinWith hbreak
  simp only [lines, List.forall_mem_append, List.forall_mem_cons]
  refine ⟨⟨⟨?_, hplain hinterface, hmembers⟩, hplain hbrace, hplain hempty, hplain hdata,
    hplain hdataOpening, frame.joinWith hseparator hentries, hplain hclosing, hplain hempty,
    hplain hrules, hplain hrulesOpening, frame.joinWith hseparator hruleEntries, hplain hclosing,
    hplain hempty, by simp⟩, ?_⟩
  · exact fun line hline => hplain (hheader line hline)
  · exact fun line hline => hplain (hsubmission line hline)

end Script

namespace Template

/-- The markup takes over what holds of the texts of the items. -/
theorem build_generated (frame : Framing given generated) (hbreak : generated [newline])
    {items : List Item} {markup : Text} (hmarkup : build items = .ok markup)
    (h : ∀ item ∈ items, ∀ t ∈ item.texts, given t) : generated markup := by
  obtain ⟨blocks, hblocks, rfl⟩ := build_eq_ok.mp hmarkup
  exact frame.joinWith hbreak (lines_of_items_generated frame hblocks h)

end Template

theorem Style.build_generated (frame : Framing given generated) (hbreak : generated [newline]) :
    generated Style.build := by
  have hlines : ∀ line ∈ Style.lines, line.IsPlain := by decide +kernel
  exact frame.joinWith hbreak fun line hline => frame.fixed (hlines line hline)

namespace Component

theorem build_eq_ok {items : List Item} {includeStyle : Bool} {c : Component} :
    build items includeStyle = .ok c ↔ ∃ markup, Template.build items = .ok markup ∧
      c = ⟨markup, Script.build items, if includeStyle then Style.build else []⟩ := by
  rw [build]
  exact Outcome.bind_pure_eq_ok

theorem singleFile_generated (frame : Framing given generated) (hbreak : generated [newline])
    {c : Component} (htemplate : generated c.template) (hscript : generated c.script)
    (hstyle : generated c.style) : generated c.singleFile := by
  apply frame.append _ hbreak
  apply frame.joinWith
  · exact frame.append hbreak hbreak
  · intro block hblock
    rcases List.mem_append.mp hblock with hblock | hblock
    · simp only [List.mem_cons, List.not_mem_nil, or_false] at hblock
      rcases hblock with rfl | rfl
      · exact htemplate
      · exact hscript
    · split at hblock
      · cases hblock
      · rw [List.mem_singleton.mp hblock]
        exact hstyle

/-- All that a component is exported as takes over what holds of the texts of the items. -/
theorem exports_generated (frame : Framing given generated) (hbreak : generated [newline])
    {items : List Item} {includeStyle : Bool} {c : Component}
    (hc : build items includeStyle = .ok c) (h : ∀ item ∈ items, ∀ t ∈ item.texts, given t) :
    ∀ member ∈ c.exports, generated member.2 := by
  obtain ⟨markup, hmarkup, rfl⟩ := build_eq_ok.mp hc
  have htemplate : generated markup := Template.build_generated frame hbreak hmarkup h
  have hscript : generated (Script.build items) := by
    apply Script.build_generated frame hbreak
    intro item hitem
    exact ⟨h item hitem item.field (by simp [Item.texts]),
      h item hitem item.label (by simp [Item.texts])⟩
  have hstyle : generated (if includeStyle then Style.build else []) := by
    split
    · exact Style.build_generated frame hbreak
    · exact frame.fixed (by decide)
  simp only [exports, List.forall_mem_cons]
  exact ⟨htemplate, hscript, hstyle, singleFile_generated frame hbreak htemplate hscript hstyle,
    by simp⟩

end Component

end Formwright
