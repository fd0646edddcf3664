import Formwright.Proofs.Reading.Members
import Formwright.Proofs.Reading.Parts

/-!
What a mapping is judged by. Its type chooses a class, and only the fields which that
class declares are looked at: two mappings that agree on them are read into the same item,
or refused for the same causes at the same places, whatever else they hold and in whatever
order. Only the values shown with the causes may differ, since a missing field is reported
with the whole mapping that lacks it.
-/

namespace Formwright

/-- Whether two documents are the same value: the members of an object have no order. -/
inductive Json.Same : Json → Json → Prop
  | refl (j : Json) : Same j j
  | array {items items' : List Json} (h : List.Forall₂ Same items items') :
    Same (.array items) (.array items')
  | object {members members' : List (Text × Json)}
    (h : ∀ name, Option.Rel Same (member? name members) (member? name members')) :
    Same (.object members) (.object members')

/-- Whether two objects hold the same values under some names, or lack them both. -/
def AgreeOn (names : List Text) (members members' : List (Text × Json)) : Prop :=
  ∀ name ∈ names, Option.Rel Json.Same (member? name members) (member? name members')

theorem agreeOn_of_map_eq {names : List Text} {members members' : List (Text × Json)}
    (h : (names.map fun name => member? name members) =
      names.map fun name => member? name members') :
    AgreeOn names members members' := by
  intro name hname
  rw [List.map_inj_left.mp h name hname]
  cases member? name members' with
  | none => exact .none
  | some j => exact .some (.refl j)

/-- An issue without the value that it was found in. -/
def Issue.bare (issue : Issue) : Issue :=
  { issue with input := .null }

/-- The places and causes of all issues. -/
def Rejection.bare (r : Rejection) : Rejection :=
  { r with issues := r.issues.map Issue.bare }

namespace Reading

variable {α β : Type}

/-- The result of a reading, or the places and causes of its issues. -/
def bare (r : Reading α) : Reading α :=
  r.mapError (·.map Issue.bare)

theorem bare_within (step : Step) (r : Reading α) : (r.within step).bare = r.bare.within step := by
  cases r with
  | ok a => rfl
  | error issues =>
    have hissues : (issues.map (Issue.within step)).map Issue.bare =
        (issues.map Issue.bare).map (Issue.within step) := by
      rw [List.map_map, List.map_map]
      rfl
    exact congrArg Except.error hissues

theorem bare_map (f : α → β) (r : Reading α) : bare (r.map f) = r.bare.map f := by
  cases r <;> rfl

theorem bare_both (r : Reading α) (s : Reading β) : (both r s).bare = both r.bare s.bare :=
  (both_mapError Issue.bare r s).symm

theorem bare_all (readings : List (Reading α)) : (all readings).bare = all (readings.map bare) :=
  (all_mapError Issue.bare readings).symm

theorem bare_titled (title : Text) (r : Reading α) :
    (r.mapError (Rejection.mk title)).mapError Rejection.bare =
      r.bare.mapError (Rejection.mk title) := by
  cases r <;> rfl

end Reading

namespace Value

variable {α : Type}

/-- Whether a reader gives the same result for the same value, or refuses it for the same causes at
the same places. -/
def Respects (read : Value → Reading α) : Prop :=
  ∀ j j' : Json, j.Same j' → (read (ofJson j)).bare = (read (ofJson j')).bare

/-- It does when it looks neither into lists nor into objects. -/
theorem Respects.of_bare {read : Value → Reading α}
    (hlist : ∀ items items', (read (.list items)).bare = (read (.list items')).bare)
    (hobject : ∀ members members', (read (.object members)).bare = (read (.object members')).bare) :
    Respects read := by
  intro j j' h
  cases h with
  | refl => rfl
  | array => exact hlist _ _
  | object => exact hobject _ _

theorem respects_readText : Respects (Value.by readText) :=
  .of_bare (fun _ _ => rfl) fun _ _ => rfl

theorem respects_readInteger : Respects (Value.by readInteger) :=
  .of_bare (fun _ _ => rfl) fun _ _ => rfl

theorem respects_readFlag : Respects (Value.by readFlag) :=
  .of_bare (fun _ _ => rfl) fun _ _ => rfl

theorem respects_readOptionalText : Respects (Value.by readOptionalText) :=
  .of_bare (fun _ _ => rfl) fun _ _ => rfl

theorem respects_readName (kind : Kind) : Respects (Value.by kind.readName) :=
  .of_bare (fun _ _ => rfl) fun _ _ => rfl

theorem respects_readScalar : Respects readScalar :=
  .of_bare (fun _ _ => rfl) fun _ _ => rfl

theorem respects_readBound : Respects readBound :=
  .of_bare (fun _ _ => rfl) fun _ _ => rfl

end Value

namespace Mapping

variable {α : Type} {members members' : List (Text × Json)}

theorem bare_require {names : List Text} (name : String) {read : Value → Reading α}
    (h : AgreeOn names members members') (hname : lit name ∈ names) (hread : Value.Respects read) :
    (require ⟨membersOfJson members⟩ name read).bare =
      (require ⟨membersOfJson members'⟩ name read).bare := by
  have hsame := h (lit name) hname
  rw [require, require, Reading.bare_within, Reading.bare_within, member?_membersOfJson,
    member?_membersOfJson]
  generalize member? (lit name) members = j, member? (lit name) members' = j' at hsame ⊢
  cases hsame with
  | some hsame => exact congrArg (Reading.within _) (hread _ _ hsame)
  | none => rfl

theorem bare_getD {names : List Text} (name : String) {default : α} {read : Value → Reading α}
    (h : AgreeOn names members members') (hname : lit name ∈ names) (hread : Value.Respects read) :
    (getD ⟨membersOfJson members⟩ name default read).bare =
      (getD ⟨membersOfJson members'⟩ name default read).bare := by
  have hsame := h (lit name) hname
  rw [getD, getD, member?_membersOfJson, member?_membersOfJson]
  generalize member? (lit name) members = j, member? (lit name) members' = j' at hsame ⊢
  cases hsame with
  | some hsame => simp only [Option.map_some, Reading.bare_within, hread _ _ hsame]
  | none => rfl

theorem bare_readChoice (h : AgreeOn RecordClass.choice.fields members members') :
    (readChoice ⟨membersOfJson members⟩).bare = (readChoice ⟨membersOfJson members'⟩).bare := by
  have hlabel := bare_require "label" h (by decide) Value.respects_readText
  have hvalue := bare_require "value" h (by decide) Value.respects_readScalar
  rw [readChoice, readChoice, Reading.bare_map, Reading.bare_map, Reading.bare_both,
    Reading.bare_both, hlabel, hvalue]

end Mapping

namespace Value

theorem respects_readChoice : Respects readChoice := by
  intro j j' h
  cases h with
  | refl => rfl
  | array => rfl
  | object h => exact Mapping.bare_readChoice fun name _ => h name

theorem bare_readChoicesFrom {items items' : List Json} (h : List.Forall₂ Json.Same items items')
    (index : Nat) :
    (readChoicesFrom index (valuesOfJson items)).map Reading.bare =
      (readChoicesFrom index (valuesOfJson items')).map Reading.bare := by
  induction h generalizing index with
  | nil => rfl
  | cons hfirst hrest ih =>
    simp only [valuesOfJson, readChoicesFrom, List.map_cons, Reading.bare_within,
      respects_readChoice _ _ hfirst, ih (index + 1)]

theorem respects_readChoices : Respects readChoices := by
  intro j j' h
  cases h with
  | refl => rfl
  | object => rfl
  | array h =>
    simp only [ofJson, readChoices, Reading.bare_all, bare_readChoicesFrom h]

end Value

namespace RecordClass

theorem baseFields_subset (kind : Option Kind) : baseFields ⊆ (ofKind? kind).fields := by
  cases kind with
  | none => exact List.Subset.refl _
  | some kind => cases kind <;> simp [ofKind?, fields, Kind.hasOptions]

end RecordClass

namespace Mapping

variable {members members' : List (Text × Json)}

theorem bare_readTypeName (kind : Option Kind)
    (h : AgreeOn RecordClass.baseFields members members') :
    (readTypeName kind ⟨membersOfJson members⟩).bare =
      (readTypeName kind ⟨membersOfJson members'⟩).bare := by
  have htype : lit "type" ∈ RecordClass.baseFields := by decide
  cases kind with
  | some kind => exact bare_getD "type" h htype (Value.respects_readName kind)
  | none => exact bare_require "type" h htype Value.respects_readText

theorem bare_readAttributes {kind : Option Kind}
    (h : AgreeOn RecordClass.baseFields members members') :
    (readAttributes kind ⟨membersOfJson members⟩).bare =
      (readAttributes kind ⟨membersOfJson members'⟩).bare := by
  have hid : lit "id" ∈ RecordClass.baseFields := by decide
  have hlabel : lit "label" ∈ RecordClass.baseFields := by decide
  have hfield : lit "field" ∈ RecordClass.baseFields := by decide
  have hplaceholder : lit "placeholder" ∈ RecordClass.baseFields := by decide
  have hrequired : lit "required" ∈ RecordClass.baseFields := by decide
  have hdisabled : lit "disabled" ∈ RecordClass.baseFields := by decide
  have htype := bare_readTypeName kind h
  cases kind <;> simp only [readTypeName] at htype <;>
    simp only [readAttributes, Reading.bare_map, Reading.bare_both, htype,
      bare_require "id" h hid Value.respects_readInteger, bare_require "label" h hlabel Value.respects_readText,
      bare_require "field" h hfield Value.respects_readText,
      bare_getD "placeholder" h hplaceholder Value.respects_readOptionalText,
      bare_getD "required" h hrequired Value.respects_readFlag, bare_getD "disabled" h hdisabled Value.respects_readFlag]

theorem bare_readControl {kind : Kind}
    (h : AgreeOn (RecordClass.variant kind).fields members members') :
    (readControl kind ⟨membersOfJson members⟩).bare =
      (readControl kind ⟨membersOfJson members'⟩).bare := by
  have hoptions (hkind : kind.hasOptions) :
      (readOptions ⟨membersOfJson members⟩).bare = (readOptions ⟨membersOfJson members'⟩).bare :=
    bare_getD "options" h (RecordClass.options_mem_fields hkind) Value.respects_readChoices
  cases kind with
  | number =>
    obtain ⟨hmin, hmax⟩ := RecordClass.bounds_mem_fields
    simp only [readControl, Reading.bare_map, Reading.bare_both,
      bare_getD "min" h hmin Value.respects_readBound, bare_getD "max" h hmax Value.respects_readBound]
  | select | radio | checkbox => simp only [readControl, Reading.bare_map, hoptions rfl]
  | input | textarea | date | switch => rfl

/-- A judge looks only at the fields that its class declares. -/
theorem bare_readItem {kind : Option Kind}
    (h : AgreeOn (RecordClass.ofKind? kind).fields members members') :
    (readItem kind ⟨membersOfJson members⟩).bare =
      (readItem kind ⟨membersOfJson members'⟩).bare := by
  have hbase : AgreeOn RecordClass.baseFields members members' := fun name hname =>
    h name (RecordClass.baseFields_subset kind hname)
  cases kind with
  | some kind =>
    simp only [readItem, Reading.bare_map, Reading.bare_both, bare_readAttributes hbase,
      bare_readControl h]
  | none => simp only [readItem, Reading.bare_map, bare_readAttributes hbase]

end Mapping

namespace Value

variable {members members' : List (Text × Json)}

theorem kind?_of_type {name : Text} (htype : member? (lit "type") members = some (.text name)) :
    (ofJson (.object members)).kind? = Kind.ofName? name := by
  simp [kind?, ofJson, member?_ofJson htype]

/-- The type alone chooses the judge. -/
theorem kind?_same
    (h : Option.Rel Json.Same (member? (lit "type") members) (member? (lit "type") members')) :
    (ofJson (.object members)).kind? = (ofJson (.object members')).kind? := by
  simp only [kind?, ofJson, member?_membersOfJson]
  generalize member? (lit "type") members = j, member? (lit "type") members' = j' at h ⊢
  cases h with
  | some h => cases h <;> rfl
  | none => rfl

end Value

namespace Mapping

/-- Whether a member is there and taken by a reader. -/
def Has {α : Type} (m : Mapping) (name : String) (read : Value → Except Cause α) : Prop :=
  ∃ v a, member? (lit name) m.members = some v ∧ read v = .ok a

/-- Whether a member is taken by a reader if it is there. -/
def MayHave {α : Type} (m : Mapping) (name : String) (read : Value → Except Cause α) : Prop :=
  ∀ v, member? (lit name) m.members = some v → ∃ a, read v = .ok a

variable {α : Type} {m : Mapping} {name : String} {read : Value → Except Cause α}

theorem has_iff : m.Has name read ↔ ∃ a, m.require name (Value.by read) = .ok a := by
  simp only [Has, require_eq_ok, Value.by, Reading.ofCause_eq_ok]
  exact exists_comm

theorem mayHave_iff (default : α) :
    m.MayHave name read ↔ ∃ a, m.getD name default (Value.by read) = .ok a := by
  rw [MayHave]
  cases hv : member? (lit name) m.members with
  | none => simp [getD_of_none hv]
  | some v => simp [getD, hv, Reading.within_eq_ok, Value.by, Reading.ofCause_eq_ok]

/-- The fields that every item has decide alone whether a mapping of no known kind is one. -/
theorem exists_readItem_none_iff {type : Text}
    (htype : member? (lit "type") m.members = some (.text type)) :
    (∃ item, m.readItem none = .ok item) ↔
      m.Has "id" Value.readInteger ∧ m.Has "label" Value.readText ∧ m.Has "field" Value.readText ∧
        m.MayHave "placeholder" Value.readOptionalText ∧ m.MayHave "required" Value.readFlag ∧
        m.MayHave "disabled" Value.readFlag := by
  rw [has_iff, has_iff, has_iff, mayHave_iff none, mayHave_iff false,
    mayHave_iff false]
  constructor
  · rintro ⟨item, hitem⟩
    obtain ⟨type, -, hattributes⟩ := readItem_none_eq_ok hitem
    obtain ⟨hid, -, hlabel, hfield, hplaceholder, hrequired, hdisabled⟩ :=
      readAttributes_eq_ok.mp hattributes
    exact ⟨⟨_, hid⟩, ⟨_, hlabel⟩, ⟨_, hfield⟩, ⟨_, hplaceholder⟩, ⟨_, hrequired⟩, ⟨_, hdisabled⟩⟩
  · rintro ⟨⟨id, hid⟩, ⟨label, hlabel⟩, ⟨field, hfield⟩, ⟨placeholder, hplaceholder⟩,
      ⟨required, hrequired⟩, ⟨disabled, hdisabled⟩⟩
    have hname : m.readTypeName none = .ok type := require_eq_ok.mpr ⟨_, htype, rfl⟩
    have hattributes : m.readAttributes none =
        .ok (type, ⟨id, label, field, placeholder, required, disabled⟩) :=
      readAttributes_eq_ok.mpr ⟨hid, hname, hlabel, hfield, hplaceholder, hrequired, hdisabled⟩
    exact ⟨_, readItem_none_of hattributes⟩

end Mapping

/-- The reading of a single mapping: its type chooses the judge, whose name is in every place. -/
theorem readDescriptors_object (members : List (Text × Json)) {kind : Option Kind}
    (hkind : (Value.ofJson (.object members)).kind? = kind) :
    readDescriptors [.ofJson (.object members)] =
      ((((Mapping.readItem kind ⟨membersOfJson members⟩).within (kindStep kind)).within
        (.index 0)).map fun item => [.fresh item]).mapError fun issues =>
          ⟨descriptorListTitle, issues⟩ := by
  subst hkind
  have hread : (Source.value (.ofJson (.object members))).read =
      ((Mapping.readItem (Value.ofJson (.object members)).kind? ⟨membersOfJson members⟩).within
        (kindStep (Value.ofJson (.object members)).kind?)).map .fresh := rfl
  rw [readDescriptors, List.map_singleton, readSources, readSourcesFrom, readSourcesFrom, hread]
  cases Mapping.readItem (Value.ofJson (.object members)).kind? ⟨membersOfJson members⟩ <;> rfl

section

variable {members members' : List (Text × Json)}

theorem readDescriptors_agree
    (h : AgreeOn (RecordClass.ofKind? (Value.ofJson (.object members)).kind?).fields members
      members') :
    (readDescriptors [.ofJson (.object members)]).mapError Rejection.bare =
      (readDescriptors [.ofJson (.object members')]).mapError Rejection.bare := by
  have htype : lit "type" ∈ RecordClass.baseFields := by decide
  have hkinds := Value.kind?_same (h _ (RecordClass.baseFields_subset _ htype))
  rw [readDescriptors_object members rfl, readDescriptors_object members' hkinds.symm,
    Reading.bare_titled, Reading.bare_titled, Reading.bare_map, Reading.bare_map,
    Reading.bare_within, Reading.bare_within, Reading.bare_within, Reading.bare_within,
    Mapping.bare_readItem h]

theorem recordClass_of_readDescriptors {kind : Option Kind} {parsed : List Parsed}
    (hkind : (Value.ofJson (.object members)).kind? = kind)
    (h : readDescriptors [.ofJson (.object members)] = .ok parsed) :
    ∃ item, parsed = [.fresh item] ∧ item.control.recordClass = .ofKind? kind := by
  rw [readDescriptors_object members hkind] at h
  obtain ⟨item, hitem, rfl⟩ := Outcome.map_eq_ok.mp (Outcome.mapError_eq_ok.mp h)
  have hread := Reading.within_eq_ok.mp (Reading.within_eq_ok.mp hitem)
  refine ⟨item, rfl, ?_⟩
  rw [Control.recordClass_eq, Mapping.kind?_of_readItem hread]

theorem place_of_readDescriptors {kind : Option Kind} {r : Rejection}
    (hkind : (Value.ofJson (.object members)).kind? = kind)
    (h : readDescriptors [.ofJson (.object members)] = .error r) :
    ∀ issue ∈ r.issues, ∃ rest, issue.place = .index 0 :: kindStep kind :: rest := by
  rw [readDescriptors_object members hkind] at h
  obtain ⟨issues, hissues, rfl⟩ := Outcome.mapError_eq_error.mp h
  obtain ⟨judged, hjudged, rfl⟩ := Outcome.mapError_eq_error.mp (Outcome.map_eq_error.mp hissues)
  obtain ⟨own, -, rfl⟩ := Outcome.mapError_eq_error.mp hjudged
  intro issue hissue
  obtain ⟨inner, hinner, rfl⟩ := List.mem_map.mp hissue
  obtain ⟨innermost, -, rfl⟩ := List.mem_map.mp hinner
  exact ⟨innermost.place, rfl⟩

theorem exists_readDescriptors_iff {kind : Option Kind}
    (hkind : (Value.ofJson (.object members)).kind? = kind) :
    (∃ parsed, readDescriptors [.ofJson (.object members)] = .ok parsed) ↔
      ∃ item, Mapping.readItem kind ⟨membersOfJson members⟩ = .ok item := by
  rw [readDescriptors_object members hkind]
  cases Mapping.readItem kind ⟨membersOfJson members⟩ with
  | ok item => exact ⟨fun _ => ⟨item, rfl⟩, fun _ => ⟨[.fresh item], rfl⟩⟩
  | error issues => exact ⟨fun ⟨_, h⟩ => (by cases h), fun ⟨_, h⟩ => (by cases h)⟩

end

/-- A mapping is judged by the fields of the class that its type chooses, whatever else it holds.
Of a known kind it is that or nothing, and of any other type the fields that every item has decide
alone. -/
theorem readDescriptors_judged (members : List (Text × Json)) :
    (∀ members', AgreeOn (RecordClass.ofKind? (Value.ofJson (.object members)).kind?).fields members
        members' →
      (readDescriptors [.ofJson (.object members)]).mapError Rejection.bare =
        (readDescriptors [.ofJson (.object members')]).mapError Rejection.bare) ∧
    (∀ kind : Kind, member? (lit "type") members = some (.text kind.name) →
      (∀ parsed, readDescriptors [.ofJson (.object members)] = .ok parsed →
        ∃ item, parsed = [.fresh item] ∧ item.control.recordClass = .variant kind) ∧
      ∀ r, readDescriptors [.ofJson (.object members)] = .error r →
        ∀ issue ∈ r.issues, ∃ rest, issue.place = .index 0 :: .key kind.name :: rest) ∧
    ∀ type, member? (lit "type") members = some (.text type) → (∀ kind : Kind, kind.name ≠ type) →
      ((∃ parsed, readDescriptors [.ofJson (.object members)] = .ok parsed) ↔
        let m : Mapping := ⟨membersOfJson members⟩
        m.Has "id" Value.readInteger ∧ m.Has "label" Value.readText ∧ m.Has "field" Value.readText ∧
          m.MayHave "placeholder" Value.readOptionalText ∧ m.MayHave "required" Value.readFlag ∧
          m.MayHave "disabled" Value.readFlag) := by
  refine ⟨fun members' h => readDescriptors_agree h, ?_, ?_⟩
  · intro kind htype
    have hkind : (Value.ofJson (.object members)).kind? = some kind :=
      (Value.kind?_of_type htype).trans kind.ofName?_name
    exact ⟨fun parsed => recordClass_of_readDescriptors hkind,
      fun r => place_of_readDescriptors hkind⟩
  · intro type htype hother
    have hnone : Kind.ofName? type = none := by
      cases hname : Kind.ofName? type with
      | none => rfl
      | some kind => exact absurd (Kind.name_of_ofName? hname) (hother kind)
    rw [exists_readDescriptors_iff ((Value.kind?_of_type htype).trans hnone)]
    exact Mapping.exists_readItem_none_iff (member?_ofJson htype)

/-- A number with a bad bound and no label. -/
def barredNumber : List (Text × Json) :=
  [(lit "type", .text (lit "number")), (lit "id", .int 1), (lit "field", .text (lit "n")),
    (lit "min", .text (lit "low"))]

/-- The same in another order, and with options, which numbers do not have. -/
def crowdedNumber : List (Text × Json) :=
  [(lit "min", .text (lit "low")), (lit "options", .int 5), (lit "field", .text (lit "n")),
    (lit "id", .int 1), (lit "type", .text (lit "number"))]

/-- An item of no known kind with options and a bound that no kind would take. -/
def crowdedRating : List (Text × Json) :=
  [(lit "max", .array []), (lit "type", .text (lit "rating")), (lit "id", .int 2),
    (lit "label", .text (lit "R")), (lit "options", .int 5), (lit "field", .text (lit "r"))]

theorem readDescriptors_judged_crowded :
    (readDescriptors [.ofJson (.object barredNumber)]).mapError Rejection.bare =
        (readDescriptors [.ofJson (.object crowdedNumber)]).mapError Rejection.bare ∧
      (∃ r, readDescriptors [.ofJson (.object crowdedNumber)] = .error r ∧
        ∀ issue ∈ r.issues, ∃ rest,
          issue.place = .index 0 :: .key Kind.number.name :: rest) ∧
      ∃ parsed, readDescriptors [.ofJson (.object crowdedRating)] = .ok parsed := by
  obtain ⟨hagree, -, -⟩ := readDescriptors_judged barredNumber
  obtain ⟨-, hknown, -⟩ := readDescriptors_judged crowdedNumber
  obtain ⟨-, -, hother⟩ := readDescriptors_judged crowdedRating
  refine ⟨hagree crowdedNumber (agreeOn_of_map_eq rfl), ?_, ?_⟩
  · obtain ⟨r, hr⟩ : ∃ r, readDescriptors [.ofJson (.object crowdedNumber)] = .error r :=
      ⟨_, rfl⟩
    exact ⟨r, hr, (hknown .number rfl).2 r hr⟩
  · apply (hother (lit "rating") rfl fun kind => by cases kind <;> decide).mpr
    refine ⟨⟨_, _, rfl, rfl⟩, ⟨_, _, rfl, rfl⟩, ⟨_, _, rfl, rfl⟩, ?_, ?_, ?_⟩ <;>
      exact fun v hv => by cases hv

end Formwright
