import Formwright.Proofs.Json.Decoded
import Formwright.Value.Display

/-!
The literal form of values that come from documents. Its fixed text is ASCII, and
what it takes over from the document is settled and stands between quotes.
-/

namespace Formwright

open Text (IsClosed)

theorem Text.isClosed_lit (s : String) : (lit s).IsClosed :=
  (isScalar_lit s).isClosed

theorem Text.IsNumeral.isClosed {t : Text} (h : t.IsNumeral) : t.IsClosed :=
  h.isPlain.toScalar.isClosed

theorem isClosed_writeWord (b : Bool) : (writeWord b).IsClosed := by
  cases b
  · exact Text.isClosed_lit "False"
  · exact Text.isClosed_lit "True"

theorem isClosed_list (opening closing : String) {pieces : List Text}
    (h : ∀ t ∈ pieces, t.IsClosed) :
    IsClosed (lit opening ++ Text.joinWith (lit ", ") pieces ++ lit closing) := by
  have hpieces := Text.Framing.settled.joinWith (Text.isClosed_lit ", ") h
  exact ((Text.isClosed_lit opening).append hpieces).append (Text.isClosed_lit closing)

theorem Kind.isScalar_className (kind : Kind) : kind.className.IsScalar := by
  cases kind <;> exact Text.isScalar_lit _

theorem RecordClass.isScalar_name_ofKind? (kind : Option Kind) :
    (RecordClass.ofKind? kind).name.IsScalar := by
  cases kind with
  | none => exact Text.isScalar_lit "UnknownFormItem"
  | some kind => exact kind.isScalar_className

namespace Value

/-- Whether a value is that of a decoded document. -/
def IsDecoded (v : Value) : Prop :=
  ∃ j : Json, j.IsDecoded ∧ v = ofJson j

/-- Whether a value has a literal form after which any settled text may stand. -/
def IsShown (v : Value) : Prop :=
  ∃ t, v.literal = .ok t ∧ t.IsClosed

theorem literals_valuesOfJson {items : List Json} (h : ∀ j ∈ items, (ofJson j).IsShown) :
    ∃ written, literals (valuesOfJson items) = .ok written ∧ ∀ t ∈ written, t.IsClosed := by
  induction items with
  | nil => exact ⟨[], rfl, by simp⟩
  | cons j items ih =>
    rw [List.forall_mem_cons] at h
    obtain ⟨⟨t, ht, hclosed⟩, hrest⟩ := h
    obtain ⟨written, hwritten, hall⟩ := ih hrest
    refine ⟨t :: written, ?_, List.forall_mem_cons.mpr ⟨hclosed, hall⟩⟩
    rw [valuesOfJson, literals, ht, hwritten]
    rfl

theorem memberLiterals_membersOfJson {members : List (Text × Json)}
    (hnames : ∀ member ∈ members, member.1.IsSettled)
    (hvalues : ∀ member ∈ members, (ofJson member.2).IsShown) :
    ∃ written, memberLiterals (membersOfJson members) = .ok written ∧
      ∀ entry ∈ written, entry.1.IsSettled ∧ entry.2.IsClosed := by
  induction members with
  | nil => exact ⟨[], rfl, by simp⟩
  | cons member members ih =>
    obtain ⟨name, j⟩ := member
    rw [List.forall_mem_cons] at hnames hvalues
    obtain ⟨⟨t, ht, hclosed⟩, hrest⟩ := hvalues
    obtain ⟨written, hwritten, hall⟩ := ih hnames.2 hrest
    refine ⟨(name, t) :: written, ?_, List.forall_mem_cons.mpr ⟨⟨hnames.1, hclosed⟩, hall⟩⟩
    rw [membersOfJson, memberLiterals, ht, hwritten]
    rfl

/-- Every decoded document is shown: its integers are within the limit. -/
theorem isShown_ofJson {j : Json} (h : j.IsDecoded) : (ofJson j).IsShown := by
  induction h with
  | null => exact ⟨_, rfl, Text.isClosed_lit "None"⟩
  | bool b => exact ⟨_, rfl, isClosed_writeWord b⟩
  | @int n hfits =>
    refine ⟨Text.ofInt n, ?_, (Text.IsNumeral.ofInt n).isClosed⟩
    rw [ofJson, literal]
    exact writeInt_of_lt hfits
  | float x => exact ⟨_, rfl, (Text.IsNumeral.written x).isClosed⟩
  | text hsettled => exact ⟨_, rfl, hsettled.quoted⟩
  | array hitems ih =>
    obtain ⟨written, hwritten, hall⟩ := literals_valuesOfJson ih
    refine ⟨_, ?_, isClosed_list "[" "]" hall⟩
    rw [ofJson, literal, hwritten]
    rfl
  | object hnames hvalues ih =>
    obtain ⟨written, hwritten, hall⟩ := memberLiterals_membersOfJson hnames ih
    have hpieces : ∀ t ∈ written.map fun entry => entry.1.quoted ++ lit ": " ++ entry.2,
        t.IsClosed := by
      rw [List.forall_mem_map]
      intro entry hentry
      obtain ⟨hname, hvalue⟩ := hall entry hentry
      exact (hname.quoted.append (Text.isClosed_lit ": ")).append hvalue
    refine ⟨_, ?_, isClosed_list "\x7b" "\x7d" hpieces⟩
    rw [ofJson, literal, hwritten]
    rfl

theorem IsDecoded.isShown {v : Value} (h : v.IsDecoded) : v.IsShown := by
  obtain ⟨j, hj, rfl⟩ := h
  exact isShown_ofJson hj

theorem IsDecoded.isScalar_typeName {v : Value} (h : v.IsDecoded) : v.typeName.IsScalar := by
  obtain ⟨j, -, rfl⟩ := h
  cases j <;> exact Text.isScalar_lit _

end Value

end Formwright
