import Formwright.Proofs.Reading.Described

/-!
Items put together from the members of a mapping: when each member that a kind
declares is read, so is the item. A member that is left out gives its default, and
members that the kind does not declare are never looked at.
-/

namespace Formwright

/-- Whether a reading gives a result, and a good one. -/
def Reading.Gives {α : Type} (good : α → Prop) (r : Reading α) : Prop :=
  ∃ a, r = .ok a ∧ good a

namespace Reading.Gives

variable {α β : Type} {good : α → Prop} {good' : β → Prop} {r : Reading α}

theorem of_ok {a : α} (h : good a) : Gives good (.ok a) :=
  ⟨a, rfl, h⟩

theorem within (step : Step) (h : r.Gives good) : (r.within step).Gives good := by
  obtain ⟨a, ha, hgood⟩ := h
  exact ⟨a, within_eq_ok.mpr ha, hgood⟩

theorem map {f : α → β} (h : r.Gives good) (hmap : ∀ a, good a → good' (f a)) :
    Gives good' (r.map f) := by
  obtain ⟨a, ha, hgood⟩ := h
  exact ⟨f a, Outcome.map_eq_ok.mpr ⟨a, ha, rfl⟩, hmap a hgood⟩

theorem both {s : Reading β} (h : r.Gives good) (h' : s.Gives good') :
    (Reading.both r s).Gives fun pair => good pair.1 ∧ good' pair.2 := by
  obtain ⟨a, ha, hgood⟩ := h
  obtain ⟨b, hb, hgood'⟩ := h'
  exact ⟨(a, b), both_eq_ok.mpr ⟨ha, hb⟩, hgood, hgood'⟩

theorem all {readings : List (Reading α)} (h : ∀ r ∈ readings, r.Gives good) :
    (Reading.all readings).Gives fun results => ∀ a ∈ results, good a := by
  induction readings with
  | nil => exact of_ok (by simp)
  | cons r readings ih =>
    rw [List.forall_mem_cons] at h
    exact (h.1.both (ih h.2)).map fun _ hpair => List.forall_mem_cons.mpr hpair

end Reading.Gives

namespace Mapping

variable {α : Type} {m : Mapping}

theorem getD_of_some {name : String} {default : α} {read : Value → Reading α} {v : Value} {a : α}
    (hv : member? (lit name) m.members = some v) (h : read v = .ok a) :
    m.getD name default read = .ok a := by
  rw [getD, hv]
  exact Reading.within_eq_ok.mpr h

theorem getD_of_none {name : String} {default : α} {read : Value → Reading α}
    (h : member? (lit name) m.members = none) : m.getD name default read = .ok default := by
  rw [getD, h]

theorem readChoice_eq_ok {c : Choice} :
    m.readChoice = .ok c ↔
      m.require "label" (Value.by Value.readText) = .ok c.caption ∧
        m.require "value" Value.readScalar = .ok c.value := by
  unfold readChoice
  rw [Outcome.map_eq_ok]
  constructor
  · rintro ⟨⟨caption, value⟩, hboth, rfl⟩
    exact Reading.both_eq_ok.mp hboth
  · intro h
    exact ⟨(c.caption, c.value), Reading.both_eq_ok.mpr h, rfl⟩

theorem readControl_number_eq_ok {minimum maximum : Option Number} :
    m.readControl .number = .ok (.number minimum maximum) ↔
      m.getD "min" none Value.readBound = .ok minimum ∧
        m.getD "max" none Value.readBound = .ok maximum := by
  unfold readControl
  rw [Outcome.map_eq_ok]
  constructor
  · rintro ⟨⟨low, high⟩, hboth, heq⟩
    cases heq
    exact Reading.both_eq_ok.mp hboth
  · intro h
    exact ⟨(minimum, maximum), Reading.both_eq_ok.mpr h, rfl⟩

theorem readItem_some_of {kind : Kind} {type : Text} {attributes : Attributes} {control : Control}
    (hattributes : m.readAttributes (some kind) = .ok (type, attributes))
    (hcontrol : m.readControl kind = .ok control) :
    m.readItem (some kind) = .ok { attributes with control } := by
  rw [readItem, hattributes, hcontrol]
  rfl

theorem readItem_none_of {type : Text} {attributes : Attributes}
    (hattributes : m.readAttributes none = .ok (type, attributes)) :
    m.readItem none = .ok { attributes with control := .unknown type } := by
  rw [readItem, hattributes]
  rfl

end Mapping

namespace Kind

theorem readName_name (kind : Kind) : kind.readName (.text kind.name) = .ok kind.name := by
  rw [readName, if_pos rfl]

end Kind

namespace Value

theorem readItem_object {members : List (Text × Value)} {item : Item}
    (h : Mapping.readItem (object members).kind? ⟨members⟩ = .ok item) :
    (object members).readItem = .ok item :=
  Reading.within_eq_ok.mpr h

theorem readChoicesFrom_eq_ok {values : List Value} {choices : List Choice} (index : Nat) :
    List.Forall₂ (fun r c => r = .ok c) (readChoicesFrom index values) choices ↔
      List.Forall₂ (fun v c => Value.readChoice v = .ok c) values choices := by
  induction values generalizing index choices with
  | nil => cases choices <;> simp [readChoicesFrom]
  | cons v values ih =>
    cases choices with
    | nil => simp [readChoicesFrom]
    | cons c choices =>
      simp only [readChoicesFrom, List.forall₂_cons, Reading.within_eq_ok, ih (index + 1)]

/-- A list of choices is read when each of them is. -/
theorem readChoices_list_eq_ok {values : List Value} {choices : List Choice} :
    (list values).readChoices = .ok choices ↔
      List.Forall₂ (fun v c => Value.readChoice v = .ok c) values choices := by
  rw [readChoices, Reading.all_eq_ok, readChoicesFrom_eq_ok]

theorem readChoicesFrom_gives {good : Choice → Prop} {items : List Value}
    (h : ∀ item ∈ items, item.readChoice.Gives good) (index : Nat) :
    ∀ r ∈ readChoicesFrom index items, r.Gives good := by
  induction items generalizing index with
  | nil => simp [readChoicesFrom]
  | cons item items ih =>
    rw [List.forall_mem_cons] at h
    rw [readChoicesFrom, List.forall_mem_cons]
    exact ⟨h.1.within (.index index), ih h.2 (index + 1)⟩

theorem readChoices_gives {good : Choice → Prop} {items : List Value}
    (h : ∀ item ∈ items, item.readChoice.Gives good) :
    (list items).readChoices.Gives fun choices => ∀ c ∈ choices, good c :=
  .all (readChoicesFrom_gives h 0)

end Value

end Formwright
