import Formwright.Proofs.Markup.Block
import Formwright.Proofs.Reading.Single

/-!
Reading the descriptors of a decoded document. Whatever the outcome, it is made of
parts of the document: the texts of an item are settled and its integers within
the limit, and every issue is one with a part of the document.
-/

namespace Formwright

/-- Whether a choice is made of decoded parts. -/
structure Choice.IsDecoded (c : Choice) : Prop where
  caption : c.caption.IsSettled
  value : c.value.IsDecoded

theorem Mapping.readChoice_yields {m : Mapping} (hm : m.IsDecoded) :
    m.readChoice.Yields Choice.IsDecoded := by
  have hcaption := require_yields "label" hm fun v hv => Value.readText_yields hv
  have hvalue := require_yields "value" hm fun v hv => Value.readScalar_yields hv
  exact (hcaption.both hvalue).map fun _ hpair => ⟨hpair.1, hpair.2⟩

namespace Value

variable {v : Value}

theorem readChoice_yields (h : v.IsDecoded) : v.readChoice.Yields Choice.IsDecoded := by
  obtain ⟨j, hj, rfl⟩ := h
  cases j with
  | object members => exact Mapping.readChoice_yields ⟨_, hj, rfl⟩
  | null | bool | int | float | text | array =>
    exact .refuse (Text.isScalar_lit _) ⟨_, hj, rfl⟩

theorem readChoicesFrom_yields (index : Nat) {items : List Value}
    (h : ∀ item ∈ items, item.IsDecoded) :
    ∀ r ∈ readChoicesFrom index items, r.Yields Choice.IsDecoded := by
  induction items generalizing index with
  | nil => simp [readChoicesFrom]
  | cons item items ih =>
    rw [List.forall_mem_cons] at h
    have hstep : (Step.index index).written.IsScalar := Text.isScalar_ofNat index
    rw [readChoicesFrom, List.forall_mem_cons]
    exact ⟨(readChoice_yields h.1).within hstep, ih (index + 1) h.2⟩

theorem isDecoded_of_mem_valuesOfJson {items : List Json} (h : ∀ j ∈ items, j.IsDecoded) :
    ∀ v ∈ valuesOfJson items, v.IsDecoded := by
  rw [valuesOfJson_eq_map, List.forall_mem_map]
  exact fun j hj => ⟨j, h j hj, rfl⟩

theorem readChoices_yields (h : v.IsDecoded) :
    v.readChoices.Yields fun choices => ∀ c ∈ choices, c.IsDecoded := by
  obtain ⟨j, hj, rfl⟩ := h
  cases hj with
  | array hitems =>
    exact .all (readChoicesFrom_yields 0 (isDecoded_of_mem_valuesOfJson hitems))
  | null => exact .refuse trivial ⟨_, .null, rfl⟩
  | bool b => exact .refuse trivial ⟨_, .bool b, rfl⟩
  | int hfits => exact .refuse trivial ⟨_, .int hfits, rfl⟩
  | float x => exact .refuse trivial ⟨_, .float x, rfl⟩
  | text hsettled => exact .refuse trivial ⟨_, .text hsettled, rfl⟩
  | object hnames hvalues => exact .refuse trivial ⟨_, .object hnames hvalues, rfl⟩

end Value

/-- Whether the attributes of an item are made of decoded parts. -/
structure Attributes.IsDecoded (attributes : Attributes) : Prop where
  label : attributes.label.IsSettled
  field : attributes.field.IsSettled
  placeholder : ∀ t ∈ attributes.placeholder, t.IsSettled

/-- Whether a control is made of decoded parts. -/
def Control.IsDecoded : Control → Prop
  | number minimum maximum => (∀ n ∈ minimum, n.Fits) ∧ ∀ n ∈ maximum, n.Fits
  | select options | radio options | checkbox options => ∀ c ∈ options, c.IsDecoded
  | _ => True

/-- Whether an item is made of decoded parts. -/
structure Item.IsDecoded (item : Item) : Prop where
  attributes : item.toAttributes.IsDecoded
  control : item.control.IsDecoded

namespace Mapping

variable {m : Mapping}

theorem readTypeName_yields (hm : m.IsDecoded) (kind : Option Kind) :
    (m.readTypeName kind).Yields fun _ => True := by
  cases kind with
  | some kind => exact getD_yields "type" hm trivial fun v hv => Value.readName_yields kind hv
  | none =>
    have htext := require_yields "type" hm fun v hv => Value.readText_yields hv
    exact ⟨fun _ => trivial, htext.issues⟩

theorem readAttributes_yields (hm : m.IsDecoded) (kind : Option Kind) :
    (m.readAttributes kind).Yields fun pair => pair.2.IsDecoded := by
  have hid := require_yields "id" hm fun v hv => Value.readInteger_yields hv
  have htext (name : String) := require_yields name hm fun v hv => Value.readText_yields hv
  have hplaceholder := @getD_yields _ _ m "placeholder" none _ hm (by simp)
    fun v hv => Value.readOptionalText_yields hv
  have hflag (name : String) := @getD_yields _ _ m name false _ hm trivial
    fun v hv => Value.readFlag_yields hv
  have hall := hid.both <| (readTypeName_yields hm kind).both <| (htext "label").both <|
    (htext "field").both <| hplaceholder.both <| (hflag "required").both (hflag "disabled")
  unfold readAttributes
  apply hall.map
  rintro ⟨id, type, label, field, placeholder, required, disabled⟩ hparts
  obtain ⟨-, -, hlabel, hfield, hplaceholder, -⟩ := hparts
  exact ⟨hlabel, hfield, hplaceholder⟩

theorem readControl_yields (hm : m.IsDecoded) (kind : Kind) :
    (m.readControl kind).Yields Control.IsDecoded := by
  have hbound (name : String) := @getD_yields _ _ m name none _ hm (by simp)
    fun v hv => Value.readBound_yields hv
  have hoptions : m.readOptions.Yields fun choices => ∀ c ∈ choices, c.IsDecoded :=
    getD_yields "options" hm (by simp) fun v hv => Value.readChoices_yields hv
  cases kind with
  | input | textarea | date | switch => exact .of_ok trivial
  | number => exact ((hbound "min").both (hbound "max")).map fun _ hbounds => hbounds
  | select | radio | checkbox => exact hoptions.map fun _ hall => hall

theorem readItem_yields (hm : m.IsDecoded) (kind : Option Kind) :
    (m.readItem kind).Yields Item.IsDecoded := by
  have hattributes := readAttributes_yields hm kind
  cases kind with
  | some kind =>
    apply (hattributes.both (readControl_yields hm kind)).map
    rintro ⟨⟨type, attributes⟩, control⟩ ⟨hattributes, hcontrol⟩
    exact ⟨hattributes, hcontrol⟩
  | none =>
    apply hattributes.map
    rintro ⟨type, attributes⟩ hattributes
    exact ⟨hattributes, trivial⟩

end Mapping

theorem isScalar_kindStep (kind : Option Kind) : (kindStep kind).written.IsScalar := by
  cases kind with
  | none => exact Text.isScalar_lit "unknown"
  | some kind => cases kind <;> exact Text.isScalar_lit _

theorem Value.readItem_yields {v : Value} (h : v.IsDecoded) : v.readItem.Yields Item.IsDecoded := by
  obtain ⟨j, hj, rfl⟩ := h
  unfold readItem
  apply Reading.Yields.within (isScalar_kindStep _)
  cases j with
  | object members => exact Mapping.readItem_yields ⟨_, hj, rfl⟩ _
  | null | bool | int | float | text | array =>
    exact .refuse (RecordClass.isScalar_name_ofKind? _) ⟨_, hj, rfl⟩

theorem readSourcesFrom_yields (index : Nat) {documents : List Json}
    (h : ∀ j ∈ documents, j.IsDecoded) :
    ∀ r ∈ readSourcesFrom index ((valuesOfJson documents).map .value),
      r.Yields fun p => ∀ item, p = .fresh item → item.IsDecoded := by
  induction documents generalizing index with
  | nil => simp [valuesOfJson, readSourcesFrom]
  | cons j documents ih =>
    rw [List.forall_mem_cons] at h
    have hstep : (Step.index index).written.IsScalar := Text.isScalar_ofNat index
    have hitem := Value.readItem_yields ⟨j, h.1, rfl⟩
    rw [valuesOfJson, List.map_cons, readSourcesFrom, List.forall_mem_cons, Source.read_ofJson]
    refine ⟨.within hstep (hitem.map ?_), ih (index + 1) h.2⟩
    intro item hitem item' heq
    cases heq
    exact hitem

theorem isScalar_descriptorListTitle : descriptorListTitle.IsScalar := by
  have hnames : ∀ t ∈ Kind.all.map Kind.className ++ [RecordClass.unknown.name], t.IsScalar := by
    simp only [List.forall_mem_append, List.forall_mem_map, List.forall_mem_singleton]
    exact ⟨fun kind _ => kind.isScalar_className, RecordClass.isScalar_name_ofKind? none⟩
  have hjoined := Text.isScalar_joinWith (Text.isScalar_lit ",") hnames
  exact ((Text.isScalar_lit _).append hjoined).append (Text.isScalar_lit _)

/-- Descriptors in a decoded document are read into items made of its parts, or the report of
what is wrong with them is settled. -/
theorem readDescriptors_decoded {documents : List Json} (h : ∀ j ∈ documents, j.IsDecoded) :
    (∀ items, Describes documents items → ∀ item ∈ items, item.IsDecoded) ∧
      ∀ r, readDescriptors (valuesOfJson documents) = .error r → r.report.IsSettled := by
  have hall := Reading.Yields.all (readSourcesFrom_yields 0 h)
  constructor
  · intro items hitems item hitem
    have hread := Outcome.mapError_eq_ok.mp hitems
    exact hall.ok hread _ (List.mem_map_of_mem hitem) item rfl
  · intro r hr
    obtain ⟨issues, hissues, rfl⟩ := Outcome.mapError_eq_error.mp hr
    apply Rejection.isSettled_report
    · exact isScalar_descriptorListTitle
    · exact hall.issues hissues

theorem Choice.IsDecoded.isSettled_texts {c : Choice} (h : c.IsDecoded) :
    ∀ t ∈ c.texts, t.IsSettled := by
  obtain ⟨hcaption, hvalue⟩ := h
  obtain ⟨caption, value⟩ := c
  cases value with
  | text t => exact List.forall_mem_cons.mpr ⟨hcaption, List.forall_mem_singleton.mpr hvalue⟩
  | number n => exact List.forall_mem_singleton.mpr hcaption

theorem Choice.IsDecoded.number_fits {c : Choice} (h : c.IsDecoded) : ∀ n ∈ c.number?, n.Fits := by
  obtain ⟨-, hvalue⟩ := h
  obtain ⟨caption, value⟩ := c
  intro n hn
  cases value with
  | text t => cases hn
  | number m =>
    obtain rfl := Option.some.inj hn
    exact hvalue

theorem Control.IsDecoded.choices {control : Control} (h : control.IsDecoded) :
    ∀ c ∈ control.choices, c.IsDecoded := by
  cases control with
  | select | radio | checkbox => exact h
  | input | textarea | number | date | switch | unknown => simp [Control.choices, Control.options?]

theorem Control.IsDecoded.numbersFit {control : Control} (h : control.IsDecoded) :
    control.NumbersFit := by
  have hchoices : ∀ c ∈ control.choices, ∀ n ∈ c.number?, n.Fits :=
    fun c hc => (h.choices c hc).number_fits
  cases control with
  | number minimum maximum => exact h
  | input | textarea | select | radio | checkbox | date | switch | unknown => exact hchoices

namespace Item.IsDecoded

variable {item : Item}

theorem isSettled_texts (h : item.IsDecoded) : ∀ t ∈ item.texts, t.IsSettled := by
  obtain ⟨⟨hlabel, hfield, hplaceholder⟩, hcontrol⟩ := h
  simp only [texts, List.forall_mem_cons, List.forall_mem_append, Option.mem_toList,
    List.mem_flatMap]
  refine ⟨hlabel, hfield, hplaceholder, ?_⟩
  rintro t ⟨c, hc, ht⟩
  exact (hcontrol.choices c hc).isSettled_texts t ht

theorem numbersFit (h : item.IsDecoded) : item.NumbersFit :=
  numbersFit_of_given h.control.numbersFit

end Item.IsDecoded

end Formwright
