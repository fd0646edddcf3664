import Formwright.Proofs.Reading.Described
import Formwright.Proofs.Record.Lineage
import Formwright.Proofs.Record.Written

/-!
What can still fail once descriptors are read. Every descriptor that is read has
an item behind it, whose markup and script are those of the descriptor. The
script always exists. The markup exists unless an item lacks the parts of the
kind it is written as, which takes a type name in bytes, or a number is past the
limit.
-/

namespace Formwright

namespace Kind

/-- Whether items of a kind are written with bounds or choices of their own. -/
def hasParts (kind : Kind) : Bool :=
  kind.hasOptions || kind = .number

end Kind

namespace Value

/-- The kind that the type of a mapping spells in bytes. -/
def spelledKind? : Value → Option Kind
  | object members =>
    match member? (lit "type") members with
    | some (bytes content) => (Text.ofUtf8? content).bind Kind.ofName?
    | _ => none
  | _ => none

/-- Whether a mapping spells in bytes a kind that needs parts. Such a type is no kind to the judge
of the mapping, so the parts are not read, but it is one to the writer of the item. -/
def HidesParts (v : Value) : Prop :=
  ∃ kind, v.spelledKind? = some kind ∧ kind.hasParts

end Value

namespace Item

theorem hasParts_unknown {item : Item} {type : Text} (h : item.control = .unknown type) :
    item.HasParts ↔ ¬ ∃ kind, Kind.ofName? type = some kind ∧ kind.hasParts := by
  have hkind : item.kind? = Kind.ofName? type := by
    rw [Item.kind?, Item.typeName, h]
    rfl
  rw [HasParts, hkind, h]
  cases hname : Kind.ofName? type with
  | none => simp
  | some kind =>
    cases kind <;> simp [Control.bounds?, Control.options?, Kind.hasParts, Kind.hasOptions]

end Item

namespace Value

/-- An item read from a mapping has its parts unless the type of the mapping hides them. -/
theorem hasParts_iff_of_readItem {v : Value} {item : Item} (h : v.readItem = .ok item) :
    item.HasParts ↔ ¬ v.HidesParts := by
  obtain ⟨members, rfl, hitem⟩ := readItem_eq_ok h
  have hkind := Mapping.kind?_of_readItem hitem
  cases hjudge : kind? (.object members) with
  | some kind =>
    rw [hjudge] at hkind
    have hparts : item.HasParts := (Item.isProper_of_control hkind).hasParts
    have hspelled : spelledKind? (.object members) = none := by
      simp only [kind?] at hjudge
      simp only [spelledKind?]
      split at hjudge
      · rename_i name htype
        rw [htype]
      · simp at hjudge
    have hshown : ¬ HidesParts (.object members) := by
      rintro ⟨kind', hkind', -⟩
      rw [hspelled] at hkind'
      cases hkind'
    exact ⟨fun _ => hshown, fun _ => hparts⟩
  | none =>
    rw [hjudge] at hitem
    obtain ⟨type, hcontrol, hattributes⟩ := Mapping.readItem_none_eq_ok hitem
    obtain ⟨-, hname, -⟩ := Mapping.readAttributes_eq_ok.mp hattributes
    obtain ⟨w, hw, hread⟩ := Mapping.require_eq_ok.mp hname
    have htext := Reading.ofCause_eq_ok.mp hread
    rw [Item.hasParts_unknown hcontrol, HidesParts]
    cases w with
    | text t =>
      obtain rfl := Except.ok.inj htext
      have hnone : Kind.ofName? t = none := by
        simpa [kind?, hw] using hjudge
      simp [spelledKind?, hw, hnone]
    | bytes content =>
      have hspelled : Text.ofUtf8? content = some type := by
        simp only [readText] at htext
        split at htext
        · rename_i t ht
          rw [ht, Except.ok.inj htext]
        · cases htext
      simp [spelledKind?, hw, hspelled]
    | null | bool | int | float | list | tuple | object | bag | model => cases htext

end Value

namespace Parsed

/-- Whether an item stands behind a descriptor that was read: the item itself was read, or a valid
record of it was kept. -/
inductive IsOf : Parsed → Item → Prop
  | fresh (item : Item) : IsOf (.fresh item) item
  | kept {m : Model} {item : Item} (h : m.item? = some item) (hproper : item.IsProper) :
    IsOf (.kept (.ofModel m)) item

theorem IsOf.writtenAlike {p : Parsed} {item : Item} (h : p.IsOf item) :
    p.WrittenAlike (.fresh item) := by
  cases h with
  | fresh => exact .refl _
  | kept hitem hproper => exact writtenAlike_of_shows (Model.shows_of_item? hitem) hproper.hasParts

section

variable {parsed : List Parsed} {items : List Item}

theorem writtenAlike_map_fresh (h : List.Forall₂ IsOf parsed items) :
    List.Forall₂ WrittenAlike parsed (items.map fresh) := by
  rw [List.forall₂_map_right_iff]
  exact h.imp fun _ _ hof => hof.writtenAlike

/-- The markup of what was read is that of the items behind it. -/
theorem templateOf_eq (h : List.Forall₂ IsOf parsed items) :
    templateOf parsed = Template.build items :=
  (templateOf_congr (writtenAlike_map_fresh h)).trans (templateOf_map_fresh items)

/-- So is the script, which always exists. -/
theorem scriptOf_eq (h : List.Forall₂ IsOf parsed items) :
    scriptOf parsed = .ok (Script.build items) :=
  (scriptOf_congr (writtenAlike_map_fresh h)).trans (scriptOf_map_fresh items)

end

end Parsed

namespace Model

/-- A record is kept only when an item stands behind it. -/
theorem item?_of_includes {m : Model}
    (h : (RecordClass.ofKind? (Record.ofModel m).kind?).includes (Record.ofModel m).cls) :
    ∃ item, m.item? = some item ∧ item.IsProper := by
  have horigin := RecordClass.ofKind?_includes_iff.mp h
  clear h
  induction m with
  | derived name m ih => exact ih horigin
  | item i =>
    have hkinds : i.control.recordClass = RecordClass.ofKind? i.kind? :=
      i.control.origin_recordClass.symm.trans horigin
    rw [Control.recordClass_eq] at hkinds
    exact ⟨i, rfl, (RecordClass.ofKind?_injective hkinds).symm⟩
  | choice =>
    have hno : RecordClass.choice = RecordClass.ofKind? none := horigin
    cases hno
  | component =>
    have hno : RecordClass.component = RecordClass.ofKind? none := horigin
    cases hno
  | base typeName attributes =>
    have hno : RecordClass.base = RecordClass.ofKind? (Kind.ofName? typeName) := horigin
    cases hname : Kind.ofName? typeName <;> simp [hname, RecordClass.ofKind?] at hno
  | optioned typeName attributes options =>
    have hno : RecordClass.optioned = RecordClass.ofKind? (Kind.ofName? typeName) := horigin
    cases hname : Kind.ofName? typeName <;> simp [hname, RecordClass.ofKind?] at hno

/-- The fields of a record name its type in text, if they name it. -/
theorem spelledKind?_dump (m : Model) : (Record.ofModel m).dump.spelledKind? = none := by
  induction m with
  | derived name m ih =>
    have hfields : (Record.ofModel (.derived name m)).dump = (Record.ofModel m).dump := by
      simp only [Record.dump, Record.fields, Record.ofModel, Model.recordClass, RecordClass.fields,
        List.append_nil]
      rfl
    rw [hfields]
    exact ih
  | item i =>
    obtain ⟨attributes, control⟩ := i
    cases control <;> rfl
  | choice | base | optioned | component => rfl

end Model

/-- Behind every descriptor that is read there is an item, and the item has its parts unless the
descriptor hides them. -/
theorem Source.exists_item {v : Value} {p : Parsed} (h : (Source.value v).read = .ok p) :
    ∃ item, p.IsOf item ∧ (item.HasParts ↔ ¬ v.HidesParts) := by
  have hfresh {w : Value} (hread : w.readItem.map .fresh = .ok p) :
      ∃ item, p.IsOf item ∧ (item.HasParts ↔ ¬ w.HidesParts) := by
    obtain ⟨item, hitem, rfl⟩ := Outcome.map_eq_ok.mp hread
    exact ⟨item, .fresh item, Value.hasParts_iff_of_readItem hitem⟩
  cases v with
  | model m =>
    have hmodel : ¬ (Value.model m).HidesParts := by
      rintro ⟨kind, hkind, -⟩
      cases hkind
    have hdump : ¬ (Record.ofModel m).dump.HidesParts := by
      rintro ⟨kind, hkind, -⟩
      rw [m.spelledKind?_dump] at hkind
      cases hkind
    simp only [Source.read, Record.read] at h
    split at h
    · rename_i hincludes
      obtain rfl := Except.ok.inj h
      obtain ⟨item, hitem, hproper⟩ := Model.item?_of_includes hincludes
      exact ⟨item, .kept hitem hproper, fun _ => hmodel, fun _ => hproper.hasParts⟩
    · obtain ⟨item, hof, hparts⟩ := hfresh h
      exact ⟨item, hof, fun _ => hmodel, fun _ => hparts.mpr hdump⟩
  | null | bool | int | float | text | bytes | list | tuple | object | bag => exact hfresh h

theorem exists_items {values : List Value} {parsed : List Parsed}
    (h : readDescriptors values = .ok parsed) :
    ∃ items, List.Forall₂ Parsed.IsOf parsed items ∧
      ((∀ item ∈ items, item.HasParts) ↔ ∀ v ∈ values, ¬ v.HidesParts) := by
  have hall := readDescriptors_eq_ok.mp h
  clear h
  induction hall with
  | nil => exact ⟨[], .nil, by simp⟩
  | cons hread hrest ih =>
    obtain ⟨item, hof, hparts⟩ := Source.exists_item hread
    obtain ⟨items, hofs, hall⟩ := ih
    refine ⟨item :: items, .cons hof hofs, ?_⟩
    rw [List.forall_mem_cons, List.forall_mem_cons, hparts, hall]

/-- Descriptors that are read have a script in any case. They have markup exactly when none of them
hides the parts of its kind and every number in them is within the limit. -/
theorem texts_of_read {values : List Value} {parsed : List Parsed}
    (h : readDescriptors values = .ok parsed) :
    ∃ items, List.Forall₂ Parsed.IsOf parsed items ∧
      Parsed.scriptOf parsed = .ok (Script.build items) ∧
      ((∃ t, Parsed.templateOf parsed = .ok t) ↔
        (∀ v ∈ values, ¬ v.HidesParts) ∧ ∀ item ∈ items, item.NumbersFit) := by
  obtain ⟨items, hofs, hparts⟩ := exists_items h
  refine ⟨items, hofs, Parsed.scriptOf_eq hofs, ?_⟩
  rw [Parsed.templateOf_eq hofs, Template.exists_build_iff, ← hparts]
  constructor
  · intro hall
    exact ⟨fun item hitem => (hall item hitem).1, fun item hitem => (hall item hitem).2⟩
  · rintro ⟨hall, hfit⟩ item hitem
    exact ⟨hall item hitem, hfit item hitem⟩

/-- A kept record next to a mapping whose type spells `radio` in bytes. -/
theorem texts_of_read_radio :
    ∃ parsed,
      readDescriptors
          [.model (.labelledInput ⟨1, lit "A", lit "a", none, true, false⟩),
            .object [(lit "id", .int 2), (lit "type", .bytes [114, 97, 100, 105, 111]),
              (lit "label", .text (lit "B")), (lit "field", .bytes [98])]] =
        .ok parsed ∧
      (∃ script, Parsed.scriptOf parsed = .ok script) ∧
      ¬ ∃ markup, Parsed.templateOf parsed = .ok markup := by
  refine ⟨[.kept (.ofModel (.labelledInput ⟨1, lit "A", lit "a", none, true, false⟩)),
    .fresh ⟨⟨2, lit "B", lit "b", none, false, false⟩, .unknown (lit "radio")⟩], rfl, ?_⟩
  obtain ⟨items, -, hscript, hmarkup⟩ := @texts_of_read
    [.model (.labelledInput ⟨1, lit "A", lit "a", none, true, false⟩),
      .object [(lit "id", .int 2), (lit "type", .bytes [114, 97, 100, 105, 111]),
        (lit "label", .text (lit "B")), (lit "field", .bytes [98])]] _ rfl
  refine ⟨⟨_, hscript⟩, ?_⟩
  intro hexists
  obtain ⟨hparts, -⟩ := hmarkup.mp hexists
  exact hparts _ (List.mem_cons_of_mem _ (List.mem_singleton.mpr rfl)) ⟨.radio, rfl, rfl⟩

/-- A mapping whose type spells `select` in bytes is read, and then its markup fails for want of
choices. -/
theorem no_markup_for_hidden_select :
    readDescriptors
        [.object [(lit "id", .int 1), (lit "type", .bytes [115, 101, 108, 101, 99, 116]),
          (lit "label", .text (lit "A")), (lit "field", .text (lit "a"))]] =
      .ok [.fresh ⟨⟨1, lit "A", lit "a", none, false, false⟩, .unknown (lit "select")⟩] ∧
    Parsed.templateOf
        [.fresh ⟨⟨1, lit "A", lit "a", none, false, false⟩, .unknown (lit "select")⟩] =
      .error (.noAttribute (lit "UnknownFormItem") (lit "options")) :=
  ⟨rfl, rfl⟩

end Formwright
