import Formwright.Proofs.Json.Conformance
import Formwright.Proofs.Mcp.Contained
import Formwright.Proofs.Reading.Integers

/-!
What the published schema admits is served. The schema of the arguments and the
readers of descriptors are written apart, so for each part of the schema there is
a statement about the reader that meets what the part admits: it takes all of it,
and gives nothing that cannot be written as long as the integers can.
-/

namespace Formwright

namespace Schema

variable {α : Type} {good : α → Prop}

/-- Whether a reader takes every document with fitting integers that a schema admits, with good
results only. -/
def ServedBy (schema : Schema) (read : Value → Reading α) (good : α → Prop) : Prop :=
  ∀ j : Json, schema.toJson.Admits j → j.IntegersFit → (read (Value.ofJson j)).Gives good

section

variable {properties : List (Text × Schema)} {required : List Text}
  {members : List (Text × Json)} {schema : Schema} {read : Value → Reading α}

/-- A member that is required is there to be read. -/
theorem ServedBy.require (name : String) (h : schema.ServedBy read good)
    (hadmits : (object properties required).toJson.Admits (.object members))
    (hfits : (Json.object members).IntegersFit) (hproperty : (lit name, schema) ∈ properties)
    (hrequired : lit name ∈ required) :
    (Mapping.require ⟨membersOfJson members⟩ name read).Gives good := by
  obtain ⟨j, hj, hadmitted⟩ := exists_member _ _ hadmits hproperty hrequired
  obtain ⟨a, ha, hgood⟩ := h j hadmitted (hfits.member hj)
  exact ⟨a, Mapping.require_eq_ok.mpr ⟨_, member?_ofJson hj, ha⟩, hgood⟩

/-- A member that is left out gives its default. -/
theorem ServedBy.getD (name : String) (default : α) (h : schema.ServedBy read good)
    (hadmits : (object properties required).toJson.Admits (.object members))
    (hfits : (Json.object members).IntegersFit) (hproperty : (lit name, schema) ∈ properties)
    (hdefault : good default) :
    (Mapping.getD ⟨membersOfJson members⟩ name default read).Gives good := by
  cases hmember : member? (lit name) members with
  | none =>
    have hnone : member? (lit name) (membersOfJson members) = none := by
      rw [member?_membersOfJson, hmember]
      rfl
    exact ⟨default, Mapping.getD_of_none hnone, hdefault⟩
  | some j =>
    have hadmitted := (admits_members.mp hadmits).1 _ hproperty j hmember
    obtain ⟨a, ha, hgood⟩ := h j hadmitted (hfits.member hmember)
    exact ⟨a, Mapping.getD_of_some (member?_ofJson hmember) ha, hgood⟩

end

theorem text_servedBy_readText : text.ServedBy (Value.by Value.readText) fun _ => True := by
  intro j hadmits _
  obtain ⟨t, rfl⟩ := admits_text.mp hadmits
  exact .of_ok trivial

theorem text_servedBy_readOptionalText :
    text.ServedBy (Value.by Value.readOptionalText) fun _ => True := by
  intro j hadmits _
  obtain ⟨t, rfl⟩ := admits_text.mp hadmits
  exact .of_ok trivial

theorem flag_servedBy_readFlag (default : Bool) :
    (flag default).ServedBy (Value.by Value.readFlag) fun _ => True := by
  intro j hadmits _
  obtain ⟨b, rfl⟩ := admits_flag.mp hadmits
  exact .of_ok trivial

theorem number_servedBy_readBound :
    number.ServedBy Value.readBound fun bound => ∀ n ∈ bound, n.Fits := by
  intro j hadmits hfits
  rcases admits_number.mp hadmits with ⟨n, rfl⟩ | ⟨x, rfl⟩
  · cases hfits with
    | int h =>
      refine .of_ok fun number hnumber => ?_
      obtain rfl := Option.some.inj hnumber
      exact h
  · refine .of_ok fun number hnumber => ?_
    obtain rfl := Option.some.inj hnumber
    trivial

theorem textOrNumber_servedBy_readScalar :
    textOrNumber.ServedBy Value.readScalar fun s => ∀ n, s = .number n → n.Fits := by
  intro j hadmits hfits
  rcases admits_textOrNumber.mp hadmits with ⟨t, rfl⟩ | ⟨n, rfl⟩ | ⟨x, rfl⟩
  · exact .of_ok fun n hn => by cases hn
  · cases hfits with
    | int h =>
      refine .of_ok fun number hnumber => ?_
      obtain rfl := Scalar.number.inj hnumber
      exact h
  · refine .of_ok fun number hnumber => ?_
    obtain rfl := Scalar.number.inj hnumber
    trivial

theorem ServedBy.array {items : Schema} {good : Choice → Prop}
    (h : items.ServedBy Value.readChoice good) :
    (array items).ServedBy Value.readChoices fun choices => ∀ c ∈ choices, good c := by
  intro j hadmits hfits
  obtain ⟨documents, rfl, hdocuments⟩ := admits_array.mp hadmits
  cases hfits with
  | array hfits =>
    apply Value.readChoices_gives
    rw [valuesOfJson_eq_map, List.forall_mem_map]
    exact fun document hdocument => h document (hdocuments _ hdocument) (hfits _ hdocument)

end Schema

theorem Value.readInteger_float {x : Double} {n : Int} (hwhole : x.toInt? = some n)
    (hword : -Numeral.wordBound < n ∧ n < Numeral.wordBound) :
    (Value.float x).readInteger = .ok n := by
  rw [readInteger]
  cases x with
  | nan | infinite negative => cases hwhole
  | finite negative magnitude => simp only [integerOfReal, hwhole, if_pos hword]

namespace Mcp

theorem choiceSchema_servedBy_readChoice :
    choiceSchema.ServedBy Value.readChoice fun c => ∀ n ∈ c.number?, n.Fits := by
  intro j hadmits hfits
  obtain ⟨members, rfl, -⟩ := Schema.admits_object.mp hadmits
  have hlabel := Schema.text_servedBy_readText.require "label" hadmits hfits (by simp) (by simp)
  have hvalue := Schema.textOrNumber_servedBy_readScalar.require "value" hadmits hfits (by simp)
    (by simp)
  apply (hlabel.both hvalue).map
  rintro ⟨caption, value⟩ ⟨-, hnumber⟩ n hn
  cases value with
  | text t => cases hn
  | number m =>
    obtain rfl := Option.some.inj hn
    exact hnumber m rfl

/-- Whether the id of a descriptor, where it is written as a real number without fraction, is
within a machine word. -/
def RealIdFits (descriptor : Json) : Prop :=
  ∀ x n, descriptor.get? "id" = some (.float x) → x.toInt? = some n →
    -Numeral.wordBound < n ∧ n < Numeral.wordBound

section

variable {members : List (Text × Json)}
  (hadmits : descriptorSchema.toJson.Admits (.object members))
  (hfits : (Json.object members).IntegersFit)

include hadmits in
/-- The type of a descriptor is the name of a kind. -/
theorem exists_kind : ∃ kind : Kind, member? (lit "type") members = some (.text kind.name) := by
  obtain ⟨j, hj, htype⟩ := Schema.exists_member (lit "type") (.oneOf (Kind.all.map Kind.name))
    hadmits (by simp) (by simp)
  obtain ⟨name, hname, rfl⟩ := Schema.admits_oneOf.mp htype
  obtain ⟨kind, -, rfl⟩ := List.mem_map.mp hname
  exact ⟨kind, hj⟩

include hadmits in
theorem readId_gives (hid : RealIdFits (.object members)) :
    (Mapping.require ⟨membersOfJson members⟩ "id" (Value.by Value.readInteger)).Gives
      fun _ => True := by
  obtain ⟨j, hj, hinteger⟩ := Schema.exists_member (lit "id") .integer hadmits (by simp) (by simp)
  have hread : ∃ n, (Value.ofJson j).readInteger = .ok n := by
    rcases Schema.admits_integer.mp hinteger with ⟨n, rfl⟩ | ⟨x, n, rfl, hwhole⟩
    · exact ⟨n, rfl⟩
    · exact ⟨n, Value.readInteger_float hwhole (hid x n hj hwhole)⟩
  obtain ⟨n, hn⟩ := hread
  exact ⟨n, Mapping.require_eq_ok.mpr ⟨_, member?_ofJson hj, Reading.ofCause_eq_ok.mpr hn⟩, trivial⟩

include hadmits hfits in
theorem readAttributes_gives (hid : RealIdFits (.object members)) {kind : Kind}
    (hkind : member? (lit "type") members = some (.text kind.name)) :
    (Mapping.readAttributes (some kind) ⟨membersOfJson members⟩).Gives fun _ => True := by
  -- The type is judged by the kind that it names itself, and its name is what that kind expects.
  have htype : (Mapping.getD ⟨membersOfJson members⟩ "type" kind.name
      (Value.by kind.readName)).Gives fun _ => True :=
    ⟨_, Mapping.getD_of_some (member?_ofJson hkind)
      (Reading.ofCause_eq_ok.mpr kind.readName_name), trivial⟩
  have hid := readId_gives hadmits hid
  have hlabel := Schema.text_servedBy_readText.require "label" hadmits hfits (by simp) (by simp)
  have hfield := Schema.text_servedBy_readText.require "field" hadmits hfits (by simp) (by simp)
  have hplaceholder := Schema.text_servedBy_readOptionalText.getD "placeholder" none hadmits hfits
    (by simp) trivial
  have hflag := Schema.flag_servedBy_readFlag false
  have hrequired := hflag.getD "required" false hadmits hfits (by simp) trivial
  have hdisabled := hflag.getD "disabled" false hadmits hfits (by simp) trivial
  have hall := hid.both <| htype.both <| hlabel.both <| hfield.both <| hplaceholder.both <|
    hrequired.both hdisabled
  unfold Mapping.readAttributes
  exact hall.map fun _ _ => trivial

include hadmits hfits in
theorem readControl_gives (kind : Kind) :
    (Mapping.readControl kind ⟨membersOfJson members⟩).Gives Control.NumbersFit := by
  have hoptions : (Mapping.readOptions ⟨membersOfJson members⟩).Gives
      fun choices => ∀ c ∈ choices, ∀ n ∈ c.number?, n.Fits :=
    choiceSchema_servedBy_readChoice.array.getD "options" [] hadmits hfits (by simp) (by simp)
  have hbound := Schema.number_servedBy_readBound
  have hmin := hbound.getD "min" none hadmits hfits (by simp) (by simp)
  have hmax := hbound.getD "max" none hadmits hfits (by simp) (by simp)
  cases kind with
  | input | textarea | date | switch =>
    exact .of_ok (by simp [Control.NumbersFit, Control.choices, Control.options?])
  | number => exact (hmin.both hmax).map fun _ hbounds => hbounds
  | select | radio | checkbox => exact hoptions.map fun _ hall => hall

end

/-- An admitted descriptor is read into an item that can be written. -/
theorem readItem_gives {j : Json} (hadmits : descriptorSchema.toJson.Admits j)
    (hfits : j.IntegersFit) (hid : RealIdFits j) :
    (Value.ofJson j).readItem.Gives Item.NumbersFit := by
  obtain ⟨members, rfl, -⟩ := Schema.admits_object.mp hadmits
  obtain ⟨kind, hkind⟩ := exists_kind hadmits
  have hjudge : (Value.ofJson (.object members)).kind? = some kind := by
    simp [Value.kind?, Value.ofJson, member?_membersOfJson, hkind, Kind.ofName?_name]
  have hattributes := readAttributes_gives hadmits hfits hid hkind
  have hcontrol := readControl_gives hadmits hfits kind
  have hitem : (Mapping.readItem (some kind) ⟨membersOfJson members⟩).Gives Item.NumbersFit :=
    (hattributes.both hcontrol).map fun _ hboth => Item.numbersFit_of_given hboth.2
  obtain ⟨item, hread, hgood⟩ := hitem
  rw [← hjudge] at hread
  exact ⟨item, Value.readItem_object hread, hgood⟩

theorem exists_describes_of_admits {documents : List Json}
    (hadmits : ∀ j ∈ documents, descriptorSchema.toJson.Admits j)
    (hfits : ∀ j ∈ documents, j.IntegersFit) (hids : ∀ j ∈ documents, RealIdFits j) :
    ∃ items, Describes documents items ∧ ∀ item ∈ items, item.NumbersFit := by
  simp only [describes_iff]
  induction documents with
  | nil => exact ⟨[], .nil, by simp⟩
  | cons j documents ih =>
    rw [List.forall_mem_cons] at hadmits hfits hids
    obtain ⟨item, hitem, hgood⟩ := readItem_gives hadmits.1 hfits.1 hids.1
    obtain ⟨items, hitems, hall⟩ := ih hadmits.2 hfits.2 hids.2
    exact ⟨item :: items, .cons hitem hitems, List.forall_mem_cons.mpr ⟨hgood, hall⟩⟩

/-- What the schema admits that the form tool is published with is served: the call is answered
with the blocks and the file of the component of the items that the descriptors describe, whatever
else stands in the arguments. -/
theorem call_of_admits {schema : Json} {arguments : List (Text × Json)}
    (hschema : formTool.toJson.get? "inputSchema" = some schema)
    (hadmits : schema.Admits (.object arguments))
    (hfits : (Json.object arguments).IntegersFit)
    (hids : ∀ documents, member? (lit "fields") arguments = some (.array documents) →
      ∀ j ∈ documents, RealIdFits j) :
    ∃ documents items c, member? (lit "fields") arguments = some (.array documents) ∧
      Describes documents items ∧ Component.build items (wantsStyle arguments) = .ok c ∧
      call (.text formToolName) (Value.ofJson (.object arguments)) =
        .ok [(lit "template", c.template), (lit "script", c.script), (lit "style", c.style),
          (lit "sfc", c.singleFile)] := by
  have hpublished : formTool.toJson.get? "inputSchema" = some formTool.arguments.toJson := rfl
  obtain rfl : formTool.arguments.toJson = schema :=
    Option.some.inj (hpublished.symm.trans hschema)
  obtain ⟨fields, hmember, harray⟩ :=
    Schema.exists_member _ _ hadmits List.mem_cons_self List.mem_cons_self
  obtain ⟨documents, rfl, hdocuments⟩ :=
    Schema.admits_array.mp (Schema.admits_described.mp harray)
  have hintegers : ∀ j ∈ documents, j.IntegersFit := by
    cases hfits.member hmember with
    | array h => exact h
  obtain ⟨items, hitems, hnumbers⟩ :=
    exists_describes_of_admits hdocuments hintegers (hids documents hmember)
  obtain ⟨c, hc⟩ :=
    (Component.exists_build_iff_of_describes hitems (wantsStyle arguments)).mpr hnumbers
  exact ⟨documents, items, c, hmember, hitems, hc, call_of_describes hmember hitems hc⟩

/-- Arguments with members that the schema does not list, a number field with choices whose id is
written as a real number, and a radio field with a bound. -/
def looseArguments : List (Text × Json) :=
  [(lit "client", .null), (lit "include_style", .bool false),
    (lit "fields", .array
      [.ofMembers [("type", .ofString "number"), ("id", .float (Double.ofInt 7)),
          ("label", .ofString "N"), ("field", .ofString "n"), ("min", .float (Double.ofDecimal false 25 (-1))),
          ("options", .array []), ("hint", .array [.null])],
        .ofMembers [("id", .int (-3)), ("type", .ofString "radio"), ("label", .ofString "R"),
          ("field", .ofString "r"), ("placeholder", .ofString ""), ("max", .int 5),
          ("options", .array [.ofMembers [("value", .float (Double.ofInt 1)),
            ("label", .ofString "One"), ("icon", .bool true)]])]])]

theorem call_of_admits_loose :
    ∃ schema, formTool.toJson.get? "inputSchema" = some schema ∧
      schema.Admits (.object looseArguments) ∧
      ∃ c : Component, call (.text formToolName) (Value.ofJson (.object looseArguments)) =
        .ok [(lit "template", c.template), (lit "script", c.script), (lit "style", c.style),
          (lit "sfc", c.singleFile)] := by
  have hadmits : formTool.arguments.toJson.Admits (.object looseArguments) :=
    Schema.admits_iff_accepts.mpr rfl
  have hfits : (Json.object looseArguments).IntegersFit := by
    have hsmall {n : Int} (hlow : -Numeral.wordBound < n) (hhigh : n < Numeral.wordBound) :
        (Json.int n).IntegersFit := .int (Numeral.lt_tooLong_of_word hlow hhigh)
    have hchoice : (Json.ofMembers [("value", .float (Double.ofInt 1)), ("label", .ofString "One"),
        ("icon", .bool true)]).IntegersFit := by
      apply Json.IntegersFit.object
      simp only [List.map_cons, List.forall_mem_cons]
      exact ⟨.float _, .text _, .bool _, by simp⟩
    apply Json.IntegersFit.object
    simp only [looseArguments, List.forall_mem_cons]
    refine ⟨.null, .bool _, .array ?_, by simp⟩
    simp only [List.forall_mem_cons]
    refine ⟨.object ?_, .object ?_, by simp⟩
    · simp only [List.map_cons, List.forall_mem_cons]
      exact ⟨.text _, .float _, .text _, .text _, .float _, .array (by simp),
        .array (by simpa using .null), by simp⟩
    · simp only [List.map_cons, List.forall_mem_cons]
      exact ⟨hsmall (by decide) (by decide), .text _, .text _, .text _, .text _,
        hsmall (by decide) (by decide), .array (by simpa using hchoice), by simp⟩
  have hids : ∀ documents, member? (lit "fields") looseArguments = some (.array documents) →
      ∀ j ∈ documents, RealIdFits j := by
    rintro documents hdocuments
    obtain rfl := Json.array.inj (Option.some.inj hdocuments)
    simp only [List.forall_mem_cons]
    refine ⟨?_, ?_, by simp⟩
    · intro x n hx hn
      obtain rfl := Json.float.inj (Option.some.inj hx)
      obtain rfl : 7 = n := Option.some.inj hn
      decide
    · intro x n hx
      cases hx
  obtain ⟨documents, items, c, -, -, -, hcall⟩ := call_of_admits rfl hadmits hfits hids
  exact ⟨_, rfl, hadmits, c, hcall⟩

end Mcp

end Formwright
