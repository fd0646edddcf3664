import Formwright.Proofs.Markup.Block
import Formwright.Proofs.Reading.Members
import Formwright.Proofs.Reading.Single

/-!
Integers on their way from a text into an item. The reader of documents takes none past
the limit on digits and the readers of descriptors make none, so whatever the text is,
the items that its descriptors are read into can be written.
-/

namespace Formwright

namespace Json

/-- Whether every integer in a document can be written. -/
inductive IntegersFit : Json → Prop
  | null : IntegersFit .null
  | bool (b : Bool) : IntegersFit (.bool b)
  | int {n : Int} (h : n.natAbs < Numeral.tooLong) : IntegersFit (.int n)
  | float (x : Double) : IntegersFit (.float x)
  | text (t : Text) : IntegersFit (.text t)
  | array {items : List Json} (h : ∀ item ∈ items, IntegersFit item) : IntegersFit (.array items)
  | object {members : List (Text × Json)} (h : ∀ member ∈ members, IntegersFit member.2) :
    IntegersFit (.object members)

theorem IntegersFit.member {members : List (Text × Json)} {name : Text} {j : Json}
    (h : (Json.object members).IntegersFit) (hj : member? name members = some j) :
    j.IntegersFit := by
  cases h with
  | object hall => exact hall _ (mem_of_member? hj)

theorem IntegersFit.put {before : List (Text × Json)} {name : Text} {value : Json}
    (h : (Json.object before).IntegersFit) (hvalue : value.IntegersFit) :
    (Json.object (putMember name value before)).IntegersFit := by
  cases h with
  | object hall =>
    apply IntegersFit.object
    intro member hmember
    rcases mem_putMember hmember with rfl | hmember
    · exact hvalue
    · exact hall member hmember

theorem integersFit_of_mem_words {word : Text} {j : Json} (h : (word, j) ∈ words) :
    j.IntegersFit := by
  have hall : ∀ entry ∈ words, entry.2.IntegersFit := by
    simp only [words, List.forall_mem_cons]
    exact ⟨.null, .bool true, .bool false, .float _, .float _, .float _, by simp⟩
  exact hall _ h

/-- Whether the integers in the parts that are already known can be written. -/
def Goal.IntegersFit : Goal → Prop
  | value => True
  | items reversed => ∀ item ∈ reversed, item.IntegersFit
  | members before => (Json.object before).IntegersFit

theorem Reads.integersFit {limits : Limits} {goal : Goal} {t rest : Text} {j : Json}
    (h : Reads limits goal t j rest) (hlimits : limits.digits ≤ Numeral.digitLimit)
    (hgoal : goal.IntegersFit) : j.IntegersFit := by
  induction h with
  | text => exact .text _
  | word hword =>
    obtain ⟨word, hmem, -⟩ := readWord?_eq_some hword
    exact integersFit_of_mem_words hmem
  | number hnumber =>
    rcases (readNumber_eq_ok hnumber).2 with ⟨x, rfl⟩ | ⟨negative, digits, hlength, rfl⟩
    · exact .float x
    · exact .int (Numeral.signed_lt_tooLong negative (hlength.trans hlimits))
  | emptyArray => exact .array (by simp)
  | emptyObject => exact .object (by simp)
  | array hitems ih => exact ih (by simp [Goal.IntegersFit])
  | object hmembers ih => exact ih (.object (by simp))
  | lastItem hitem hclose ih =>
    apply IntegersFit.array
    simp only [List.mem_reverse, List.forall_mem_cons]
    exact ⟨ih trivial, hgoal⟩
  | nextItem hitem hcomma hitems ih ihrest =>
    exact ihrest (List.forall_mem_cons.mpr ⟨ih trivial, hgoal⟩)
  | lastMember hname hcolon hvalue hclose ih => exact hgoal.put (ih trivial)
  | nextMember hname hcolon hvalue hcomma hmembers ih ihrest =>
    exact ihrest (hgoal.put (ih trivial))

/-- Whatever a text holds, the integers that are read of it can be written. -/
theorem integersFit_of_read {t : Text} {j : Json} (h : read t = .ok j) : j.IntegersFit := by
  obtain ⟨rest, hreads⟩ := reads_of_readWithin h
  exact hreads.integersFit (Nat.le_refl _) trivial

end Json

namespace Value

variable {v : Value} (hv : ∀ m, v = .int m → m.natAbs < Numeral.tooLong)

include hv

theorem fits_of_readNumber {n : Number} (h : v.readNumber = .ok n) : n.Fits := by
  rw [readNumber.eq_def] at h
  split at h
  · cases h
    exact hv _ rfl
  · cases h
    trivial
  · split at h
    · rename_i hread
      cases h
      exact readInteger_lt_tooLong hv hread
    · cases h
      trivial
    · cases h

theorem fits_of_readBound {bound : Option Number} (h : v.readBound = .ok bound) :
    ∀ n ∈ bound, n.Fits := by
  rw [readBound.eq_def] at h
  split at h
  · cases h
    simp
  · obtain ⟨n, hn, rfl⟩ := Outcome.map_eq_ok.mp h
    simpa using fits_of_readNumber hv hn

theorem fits_of_readScalar {s : Scalar} (h : v.readScalar = .ok s) :
    ∀ n, s = .number n → n.Fits := by
  rw [readScalar.eq_def] at h
  split at h
  · cases h
    rintro n ⟨⟩
  · cases h
    rintro n ⟨⟩
    exact hv _ rfl
  · cases h
    rintro n ⟨⟩
    trivial
  · split at h
    · cases h
      rintro n ⟨⟩
    · rename_i hread _
      cases h
      rintro n ⟨⟩
      exact readInteger_lt_tooLong hv hread
    · cases h
      rintro n ⟨⟩
      trivial
    · cases h

end Value

theorem Json.IntegersFit.natAbs_lt {j : Json} (h : j.IntegersFit) :
    ∀ m, Value.ofJson j = .int m → m.natAbs < Numeral.tooLong := by
  cases h with
  | int hfits =>
    rintro m ⟨⟩
    exact hfits
  | null | bool | float | text | array | object => nofun

namespace Mapping

variable {α : Type} {members : List (Text × Json)}

/-- What is read of a member, or stands for it, is good when all is that can be read of it. -/
theorem good_of_getD {name : String} {default a : α} {read : Value → Reading α} {good : α → Prop}
    (hfits : (Json.object members).IntegersFit) (hdefault : good default)
    (hread : ∀ j : Json, j.IntegersFit → ∀ a, read (.ofJson j) = .ok a → good a)
    (h : getD ⟨membersOfJson members⟩ name default read = .ok a) : good a := by
  rw [getD, member?_membersOfJson] at h
  cases hmember : member? (lit name) members with
  | none =>
    rw [hmember] at h
    cases h
    exact hdefault
  | some j =>
    rw [hmember] at h
    exact hread j (hfits.member hmember) a (Reading.within_eq_ok.mp h)

end Mapping

theorem forall_mem_of_forall₂ {α β : Type} {related : α → β → Prop} {good : β → Prop}
    {xs : List α} {ys : List β} (h : List.Forall₂ related xs ys)
    (hgood : ∀ x ∈ xs, ∀ y, related x y → good y) : ∀ y ∈ ys, good y := by
  induction h with
  | nil => simp
  | cons hfirst hrest ih =>
    rw [List.forall_mem_cons] at hgood ⊢
    exact ⟨hgood.1 _ hfirst, ih hgood.2⟩

theorem Value.fits_of_readChoice {j : Json} {c : Choice} (hj : j.IntegersFit)
    (h : (ofJson j).readChoice = .ok c) : ∀ n ∈ c.number?, n.Fits := by
  cases j with
  | object members =>
    obtain ⟨-, hvalue⟩ := Mapping.readChoice_eq_ok.mp h
    obtain ⟨v, hv, hread⟩ := Mapping.require_eq_ok.mp hvalue
    rw [member?_membersOfJson] at hv
    obtain ⟨j, hmember, rfl⟩ := Option.map_eq_some_iff.mp hv
    have hfits := fits_of_readScalar (hj.member hmember).natAbs_lt hread
    obtain ⟨caption, value⟩ := c
    intro n hn
    cases value with
    | text t => cases hn
    | number m =>
      obtain rfl := Option.some.inj hn
      exact hfits m rfl
  | null | bool | int | float | text | array => exact absurd h Reading.refuse_ne_ok

theorem Value.fits_of_readChoices {j : Json} {choices : List Choice} (hj : j.IntegersFit)
    (h : (ofJson j).readChoices = .ok choices) : ∀ c ∈ choices, ∀ n ∈ c.number?, n.Fits := by
  cases hj with
  | array hitems =>
    have hall := readChoices_list_eq_ok.mp h
    rw [valuesOfJson_eq_map, List.forall₂_map_left_iff] at hall
    exact forall_mem_of_forall₂ hall fun j hj c hread => fits_of_readChoice (hitems j hj) hread
  | null | bool | int | float | text | object => exact absurd h Reading.refuse_ne_ok

theorem Mapping.numbersFit_of_readControl {members : List (Text × Json)} {kind : Kind}
    {control : Control} (hfits : (Json.object members).IntegersFit)
    (h : readControl kind ⟨membersOfJson members⟩ = .ok control) : control.NumbersFit := by
  have hbound {name : String} {bound : Option Number}
      (h : getD ⟨membersOfJson members⟩ name none Value.readBound = .ok bound) :
      ∀ n ∈ bound, n.Fits :=
    good_of_getD hfits (by simp) (fun j hj _ => Value.fits_of_readBound hj.natAbs_lt) h
  have hoptions {choices : List Choice} (h : readOptions ⟨membersOfJson members⟩ = .ok choices) :
      ∀ c ∈ choices, ∀ n ∈ c.number?, n.Fits :=
    good_of_getD hfits (by simp) (fun j hj _ => Value.fits_of_readChoices hj) h
  cases kind with
  | number =>
    obtain ⟨⟨minimum, maximum⟩, hboth, rfl⟩ := Outcome.map_eq_ok.mp h
    obtain ⟨hminimum, hmaximum⟩ := Reading.both_eq_ok.mp hboth
    exact ⟨hbound hminimum, hbound hmaximum⟩
  | select | radio | checkbox =>
    obtain ⟨choices, hchoices, rfl⟩ := Outcome.map_eq_ok.mp h
    exact hoptions hchoices
  | input | textarea | date | switch =>
    cases h
    simp [Control.NumbersFit, Control.choices, Control.options?]

theorem Value.numbersFit_of_readItem {j : Json} {item : Item} (hj : j.IntegersFit)
    (h : (ofJson j).readItem = .ok item) : item.NumbersFit := by
  obtain ⟨members, hmembers, hitem⟩ := readItem_eq_ok h
  cases j with
  | object members =>
    obtain rfl := Value.object.inj hmembers
    cases hkind : (ofJson (.object members)).kind? with
    | some kind =>
      rw [hkind] at hitem
      have hcontrol := (Mapping.readItem_some_eq_ok hitem).2
      exact Item.numbersFit_of_given (Mapping.numbersFit_of_readControl hj hcontrol)
    | none =>
      rw [hkind] at hitem
      obtain ⟨type, hcontrol, -⟩ := Mapping.readItem_none_eq_ok hitem
      exact Item.numbersFit_of_control (by rw [hcontrol]; rfl)
  | null | bool | int | float | text | array => cases hmembers

/-- The items that the descriptors in a text are read into can be written. -/
theorem Describes.numbersFit {t : Text} {documents : List Json} {items : List Item}
    (h : Describes documents items) (hread : Json.read t = .ok (.array documents)) :
    ∀ item ∈ items, item.NumbersFit := by
  cases Json.integersFit_of_read hread with
  | array hfits =>
    exact forall_mem_of_forall₂ (describes_iff.mp h) fun j hj item hitem =>
      Value.numbersFit_of_readItem (hfits j hj) hitem

end Formwright
