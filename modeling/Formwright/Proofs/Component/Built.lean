import Formwright.Proofs.Component.Generated

/-!
When a component comes of items, and of the documents that describe them. An item
that has the parts of its kind is stopped by one thing only, an integer past the
limit, and this is passed on from the number through the choices and the blocks to
the whole component.
-/

namespace Formwright

open Outcome (FailsOnlyWith)

theorem Number.inMarkup_fails (n : Number) : FailsOnlyWith .numeralTooLong n.inMarkup := by
  cases n with
  | real x => exact .of_ok _
  | whole n =>
    intro fault h
    by_cases hfits : n.natAbs < Numeral.tooLong
    · rw [inMarkup_whole hfits] at h
      cases h
    · rw [inMarkup_whole_of_not hfits] at h
      exact (Except.error.inj h).symm

theorem Choice.optionText_fails (choice : Choice) :
    FailsOnlyWith .numeralTooLong choice.optionText := by
  have hvalue : FailsOnlyWith .numeralTooLong choice.value.inMarkup := by
    cases choice.value with
    | text t => exact .of_ok _
    | number n => exact n.inMarkup_fails
  exact hvalue.bind fun _ => .of_ok _

namespace Item

variable {item : Item}

theorem optionTexts_fails {choices : List Choice} (h : item.control.options? = some choices) :
    FailsOnlyWith .numeralTooLong item.optionTexts := by
  rw [optionTexts, h]
  exact .mapM fun choice _ => choice.optionText_fails

/-- An item with the parts of its kind lacks nothing that its control is written with. -/
theorem widget_fails (h : item.HasParts) : FailsOnlyWith .numeralTooLong item.widget := by
  rw [HasParts] at h
  rw [widget]
  cases hkind : item.kind? with
  | none => exact .of_ok _
  | some kind =>
    rw [hkind] at h
    cases kind with
    | input | textarea | date | switch => exact .of_ok _
    | number =>
      obtain ⟨⟨minimum, maximum⟩, hbounds⟩ := h
      simp only [hbounds]
      exact (Number.inMarkup_fails _).bind fun _ => (Number.inMarkup_fails _).bind fun _ => .of_ok _
    | select | radio | checkbox =>
      obtain ⟨choices, hchoices⟩ := h
      exact (optionTexts_fails hchoices).bind fun _ => .of_ok _

theorem block_fails (h : item.HasParts) : FailsOnlyWith .numeralTooLong item.block :=
  (widget_fails h).bind fun _ => .of_ok _

end Item

theorem Template.build_fails {items : List Item} (h : ∀ item ∈ items, item.HasParts) :
    FailsOnlyWith .numeralTooLong (build items) :=
  (FailsOnlyWith.mapM fun item hitem => Item.block_fails (h item hitem)).bind fun _ => .of_ok _

namespace Component

theorem exists_build_iff {items : List Item} {includeStyle : Bool} :
    (∃ c, build items includeStyle = .ok c) ↔ ∃ markup, Template.build items = .ok markup := by
  simp only [build_eq_ok, exists_comm, exists_and_left, exists_eq, and_true]

variable {documents : List Json} {items : List Item}

theorem exists_build_iff_of_describes (h : Describes documents items) (includeStyle : Bool) :
    (∃ c, build items includeStyle = .ok c) ↔ ∀ item ∈ items, item.NumbersFit := by
  rw [exists_build_iff, Template.exists_build_iff_of_describes h]

/-- Items read from documents make a component unless a number is past the limit. -/
theorem build_or_tooLong (h : Describes documents items) (includeStyle : Bool) :
    (∃ c, build items includeStyle = .ok c) ∨
      ((∃ item ∈ items, ¬ item.NumbersFit) ∧
        build items includeStyle = .error .numeralTooLong) := by
  by_cases hbuild : ∃ c, build items includeStyle = .ok c
  · exact .inl hbuild
  -- Items from documents are proper, so no attribute of their kinds is missing.
  · have hparts : ∀ item ∈ items, item.HasParts :=
      fun item hitem => (h.isProper item hitem).hasParts
    have hfails : FailsOnlyWith .numeralTooLong (build items includeStyle) :=
      (Template.build_fails hparts).bind fun _ => .of_ok _
    refine .inr ⟨?_, hfails.eq_error hbuild⟩
    simpa [exists_build_iff_of_describes h] using hbuild

end Component

namespace Descriptors

variable {documents : List Json} {items : List Item} {includeStyle : Bool}

/-- Documents make what the items make that they describe. -/
theorem component_eq_of_describes (h : Describes documents items) :
    component (.list (valuesOfJson documents)) includeStyle =
      (Component.build items includeStyle).mapError .fault := by
  have hread : read (.list (valuesOfJson documents)) = .ok (items.map .fresh) := by
    rw [read, Value.elements]
    exact Outcome.mapError_eq_ok.mpr h
  rw [component, hread, ← Parsed.componentOf_map_fresh]
  rfl

theorem component_of_describes {c : Component} (h : Describes documents items)
    (hc : Component.build items includeStyle = .ok c) :
    component (.list (valuesOfJson documents)) includeStyle = .ok c := by
  rw [component_eq_of_describes h, hc]
  rfl

theorem component_of_tooLong (h : Describes documents items)
    (htooLong : ∃ item ∈ items, ¬ item.NumbersFit) :
    component (.list (valuesOfJson documents)) includeStyle = .error (.fault .numeralTooLong) := by
  rw [component_eq_of_describes h]
  rcases Component.build_or_tooLong h includeStyle with hbuild | ⟨-, hbuild⟩
  · rw [Component.exists_build_iff_of_describes h] at hbuild
    obtain ⟨item, hitem, hnot⟩ := htooLong
    exact absurd (hbuild item hitem) hnot
  · rw [hbuild]
    rfl

theorem component_of_rejected {r : Rejection}
    (h : readDescriptors (valuesOfJson documents) = .error r) :
    component (.list (valuesOfJson documents)) includeStyle = .error (.rejected r) := by
  have hread : read (.list (valuesOfJson documents)) = .error (.rejected r) := by
    rw [read, Value.elements]
    exact Outcome.mapError_eq_error.mpr ⟨r, h, rfl⟩
  rw [component, hread]
  rfl

end Descriptors

end Formwright
