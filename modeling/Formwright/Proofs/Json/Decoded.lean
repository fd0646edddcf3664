import Formwright.Proofs.Json.Lexemes
import Formwright.Proofs.Number.Limits
import Formwright.Proofs.Text.Settled

/-!
What reading a text of scalar values can give. Escapes spell halves of surrogate
pairs, but the reader joins the escapes of two halves that make one code point,
so the texts of a document are settled. Its integers are within the limit.
-/

namespace Formwright

namespace Text

theorem IsSettled.concat {t : Text} {c : CodePoint} (h : t.IsSettled)
    (hc : ∀ d ∈ t.getLast?, d.Apart c) : IsSettled (t ++ [c]) := by
  apply h.append (List.isChain_singleton c)
  intro d hd e he
  obtain rfl := Option.some.inj he
  exact hc d hd

end Text

namespace Json

/-- Whether a document can come of a text of scalar values: its texts and names are settled, and
its integers can be written. -/
inductive IsDecoded : Json → Prop
  | null : IsDecoded .null
  | bool (b : Bool) : IsDecoded (.bool b)
  | int {n : Int} (h : n.natAbs < Numeral.tooLong) : IsDecoded (.int n)
  | float (x : Double) : IsDecoded (.float x)
  | text {t : Text} (h : t.IsSettled) : IsDecoded (.text t)
  | array {items : List Json} (h : ∀ item ∈ items, IsDecoded item) : IsDecoded (.array items)
  | object {members : List (Text × Json)} (hnames : ∀ member ∈ members, member.1.IsSettled)
    (hvalues : ∀ member ∈ members, IsDecoded member.2) : IsDecoded (.object members)

section Strings

variable {start reversed t s rest : Text} {after : Bool}

/-- Whether what was read of a string, in reverse, may go on with a code point that was not
escaped, or with any if the last one was. -/
structure IsOpen (after : Bool) (reversed : Text) : Prop where
  settled : Text.IsSettled reversed.reverse
  ending : after = false → ∀ c ∈ reversed.head?, c.isHighHalf = false

theorem IsOpen.push (h : IsOpen after reversed) {c : CodePoint} (hc : c.isScalar) :
    IsOpen false (c :: reversed) where
  settled := by
    rw [List.reverse_cons]
    exact h.settled.concat fun d _ => CodePoint.apart_of_isScalar_right hc d
  ending _ d hd := by
    obtain rfl := Option.some.inj hd
    exact CodePoint.isHighHalf_of_isScalar hc

theorem isScalar_of_simpleEscape? {e c : CodePoint} (h : simpleEscape? e = some c) :
    c.isScalar := by
  unfold simpleEscape? at h
  split at h <;> cases h <;> rfl

theorem isScalar_ofNat {n : Nat} (h : 0xE000 ≤ n) : (CodePoint.ofNat n).isScalar := by
  rw [CodePoint.ofNat, dif_neg (by omega)]
  rfl

theorem unit_of_isLowHalf {unit : Nat} (h : (CodePoint.ofNat unit).isLowHalf = true) :
    0xDC00 ≤ unit ∧ unit < 0xE000 := by
  rw [CodePoint.ofNat] at h
  split at h
  · rw [CodePoint.isLowHalf, decide_eq_true_eq] at h
    simp only at h
    omega
  · cases h

/-- Behind what may go on, a unit that makes no code point with the last is apart from it. -/
theorem IsOpen.concat (h : IsOpen after reversed) {c : CodePoint}
    (hc : ∀ high before, after = true → reversed = .surrogate high :: before →
      (CodePoint.surrogate high).Apart c) : Text.IsSettled (c :: reversed).reverse := by
  rw [List.reverse_cons]
  apply h.settled.concat
  intro d hd hhalves
  rw [List.getLast?_reverse] at hd
  cases after with
  | false => exact absurd hhalves.1 (by rw [h.ending rfl d hd]; decide)
  | true =>
    cases d with
    | scalar d => cases hhalves.1
    | surrogate high =>
      obtain ⟨before, hbefore⟩ := List.head?_eq_some_iff.mp hd
      exact hc high before rfl hbefore hhalves

/-- The reader never puts a low half behind a high half: it makes them one code point. -/
theorem IsOpen.pushUnit (h : IsOpen after reversed) (unit : Nat) :
    IsOpen true (pushUnit after unit reversed) := by
  have hsettled : Text.IsSettled (Json.pushUnit after unit reversed).reverse := by
    unfold Json.pushUnit
    split
    · rename_i high before
      split
      · have hbefore := h.settled
        rw [List.reverse_cons] at hbefore ⊢
        have hfront : Text.IsSettled before.reverse := List.IsChain.left_of_append hbefore
        apply hfront.concat
        intro d _
        exact CodePoint.apart_of_isScalar_right (isScalar_ofNat (by omega)) d
      · rename_i hpair
        apply h.concat
        intro high' before' _ heq hhalves
        obtain rfl := CodePoint.surrogate.inj (List.cons.inj heq).1
        exact hpair ⟨of_decide_eq_true hhalves.1, unit_of_isLowHalf hhalves.2⟩
    · rename_i hlone
      apply h.concat
      intro high before hafter heq
      exact absurd heq (hlone high before hafter)
  exact ⟨hsettled, fun hfalse => by cases hfalse⟩

/-- A string that is read is settled. -/
theorem settled_of_readString (h : readString start after reversed t = .ok (s, rest))
    (ht : t.IsScalar) (hopen : IsOpen after reversed) : s.IsSettled := by
  fun_induction readString start after reversed t with
  | case1 | case3 | case5 | case6 | case8 | case9 => cases h
  | case2 =>
    cases h
    exact hopen.settled
  | case4 after reversed a b c d next tail unit hunit hslash ih =>
    have htail : Text.IsScalar (next :: tail) := fun e he => ht e (by simp_all)
    exact ih h htail (hopen.pushUnit unit)
  | case7 after reversed e tail hunit c hsimple hslash ih =>
    have htail : Text.IsScalar tail := fun d hd => ht d (by simp [hd])
    exact ih h htail (hopen.push (isScalar_of_simpleEscape? hsimple))
  | case10 after reversed c tail hquote hslash hcontrol ih =>
    have htail : Text.IsScalar tail := fun d hd => ht d (by simp [hd])
    exact ih h htail (hopen.push (ht c (by simp)))

end Strings

theorem mem_putMember {α : Type} {name : Text} {value : α} {members : List (Text × α)}
    {member : Text × α} (h : member ∈ putMember name value members) :
    member = (name, value) ∨ member ∈ members := by
  induction members with
  | nil => exact .inl (List.mem_singleton.mp h)
  | cons first members ih =>
    rw [putMember] at h
    split at h
    · rcases List.mem_cons.mp h with rfl | h
      · exact .inl rfl
      · exact .inr (List.mem_cons_of_mem first h)
    · rcases List.mem_cons.mp h with rfl | h
      · exact .inr List.mem_cons_self
      · exact (ih h).imp_right (List.mem_cons_of_mem first)

theorem isDecoded_of_mem_words {word : Text} {j : Json} (h : (word, j) ∈ words) :
    j.IsDecoded := by
  simp only [words, List.mem_cons, Prod.mk.injEq, List.not_mem_nil, or_false] at h
  rcases h with ⟨-, rfl⟩ | ⟨-, rfl⟩ | ⟨-, rfl⟩ | ⟨-, rfl⟩ | ⟨-, rfl⟩ | ⟨-, rfl⟩
  · exact .null
  · exact .bool true
  · exact .bool false
  · exact .float _
  · exact .float _
  · exact .float _

/-- Whether the parts that are already known are such that their whole is decoded. -/
def Goal.IsDecoded : Goal → Prop
  | value => True
  | items reversed => ∀ item ∈ reversed, item.IsDecoded
  | members before => (Json.object before).IsDecoded

theorem Goal.IsDecoded.put {before : List (Text × Json)} {name : Text} {value : Json}
    (h : (Goal.members before).IsDecoded) (hname : name.IsSettled) (hvalue : value.IsDecoded) :
    (Goal.members (putMember name value before)).IsDecoded := by
  cases h with
  | object hnames hvalues =>
    constructor
    case hnames =>
      intro member hmember
      rcases mem_putMember hmember with rfl | hmember
      · exact hname
      · exact hnames member hmember
    case hvalues =>
      intro member hmember
      rcases mem_putMember hmember with rfl | hmember
      · exact hvalue
      · exact hvalues member hmember

theorem isOpen_nil : IsOpen false [] where
  settled := Text.isSettled_nil
  ending _ c hc := by cases hc

theorem isScalar_of_suffix {t rest : Text} (h : t.IsScalar) (hsuffix : rest <:+ t) :
    rest.IsScalar :=
  fun c hc => h c (hsuffix.subset hc)

/-- What is read of a text of scalar values is decoded. -/
theorem Reads.isDecoded {limits : Limits} {goal : Goal} {t rest : Text} {j : Json}
    (h : Reads limits goal t j rest) (hlimits : limits.digits ≤ Numeral.digitLimit)
    (ht : t.IsScalar) (hgoal : goal.IsDecoded) : j.IsDecoded := by
  have hbody {c : CodePoint} {body : Text} (h : Text.IsScalar (c :: body)) : body.IsScalar :=
    isScalar_of_suffix h (List.suffix_cons c body)
  induction h with
  | text hstring => exact .text (settled_of_readString hstring (hbody ht) isOpen_nil)
  | word hword =>
    obtain ⟨word, hmem, -⟩ := readWord?_eq_some hword
    exact isDecoded_of_mem_words hmem
  | number hnumber =>
    rcases (readNumber_eq_ok hnumber).2 with ⟨x, rfl⟩ | ⟨negative, digits, hlength, rfl⟩
    · exact .float x
    · exact .int (Numeral.signed_lt_tooLong negative (hlength.trans hlimits))
  | emptyArray hclose => exact .array (by simp)
  | emptyObject hclose => exact .object (by simp) (by simp)
  | array hitems ih =>
    exact ih (isScalar_of_suffix (hbody ht) (skipBlanks_suffix _)) (by simp [Goal.IsDecoded])
  | object hmembers ih =>
    exact ih (isScalar_of_suffix (hbody ht) (skipBlanks_suffix _)) (.object (by simp) (by simp))
  | lastItem hitem hclose ih =>
    apply IsDecoded.array
    simp only [List.mem_reverse, List.forall_mem_cons]
    exact ⟨ih ht trivial, hgoal⟩
  | nextItem hitem hcomma hitems ih ihrest =>
    have hnext := (suffix_of_skipBlanks hcomma).trans hitem.suffix
    apply ihrest (isScalar_of_suffix ht ((skipBlanks_suffix _).trans hnext))
    exact List.forall_mem_cons.mpr ⟨ih ht trivial, hgoal⟩
  | lastMember hname hcolon hvalue hclose ih =>
    have hscalar := isScalar_of_suffix (hbody ht) (value_suffix hname hcolon)
    exact hgoal.put (settled_of_readString hname (hbody ht) isOpen_nil) (ih hscalar trivial)
  | nextMember hname hcolon hvalue hcomma hmembers ih ihrest =>
    have hspelled := value_suffix hname hcolon
    have hnext := ((suffix_of_skipBlanks hcomma).trans hvalue.suffix).trans hspelled
    have hdecoded := ih (isScalar_of_suffix (hbody ht) hspelled) trivial
    apply ihrest (isScalar_of_suffix (hbody ht) ((skipBlanks_suffix _).trans hnext))
    exact hgoal.put (settled_of_readString hname (hbody ht) isOpen_nil) hdecoded

theorem isDecoded_of_read {t : Text} {j : Json} (h : read t = .ok j) (ht : t.IsScalar) :
    j.IsDecoded := by
  obtain ⟨rest, hreads⟩ := reads_of_readWithin h
  exact hreads.isDecoded (Nat.le_refl _) (isScalar_of_suffix ht (skipBlanks_suffix t)) trivial

theorem isScalar_message (e : ReadError) : e.message.IsScalar := by
  have hlit := Text.isScalar_lit
  have hnat := Text.isScalar_ofNat
  cases e with
  | malformed complaint document position =>
    rw [ReadError.message]
    split
    exact (((((((hlit _).append (hlit _)).append (hnat _)).append (hlit _)).append (hnat _)).append
      (hlit _)).append (hnat _)).append (hlit _)
  | numeralTooLong digits =>
    exact ((((hlit _).append (hnat _)).append (hlit _)).append (hnat _)).append (hlit _)
  | tooDeep => simp [ReadError.message, Text.IsScalar]

end Json

end Formwright
