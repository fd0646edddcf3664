import Formwright.Proofs.Text.Framing
import Formwright.Text.Quoted
import Formwright.Text.Utf8
import Mathlib.Data.List.Chain

/-!
Texts in which no high half of a surrogate pair stands right before a low half.
Only such a text is the same text after it has been spelled in escapes and read
again, for two halves that meet are read as one code point. Fixed text keeps
halves apart, so what is generated from settled texts is settled.
-/

namespace Formwright

namespace CodePoint

def isHighHalf : CodePoint → Bool
  | scalar _ => false
  | surrogate offset => offset.val < 0x400

def isLowHalf : CodePoint → Bool
  | scalar _ => false
  | surrogate offset => 0x400 ≤ offset.val

theorem isHighHalf_of_isScalar {c : CodePoint} (h : c.isScalar) : c.isHighHalf = false := by
  cases c with
  | scalar c => rfl
  | surrogate offset => cases h

theorem isLowHalf_of_isScalar {c : CodePoint} (h : c.isScalar) : c.isLowHalf = false := by
  cases c with
  | scalar c => rfl
  | surrogate offset => cases h

/-- Whether two neighbours are not the halves of one code point. -/
def Apart (c d : CodePoint) : Prop :=
  ¬ (c.isHighHalf = true ∧ d.isLowHalf = true)

theorem apart_of_isScalar_left {c : CodePoint} (h : c.isScalar) (d : CodePoint) : c.Apart d := by
  intro hhalves
  rw [isHighHalf_of_isScalar h] at hhalves
  exact absurd hhalves.1 (by simp)

theorem apart_of_isScalar_right {d : CodePoint} (h : d.isScalar) (c : CodePoint) : c.Apart d := by
  intro hhalves
  rw [isLowHalf_of_isScalar h] at hhalves
  exact absurd hhalves.2 (by simp)

end CodePoint

namespace Text

/-- Whether no two neighbours are the halves of one code point. -/
def IsSettled (t : Text) : Prop :=
  t.IsChain CodePoint.Apart

/-- Whether a text is all of scalar values. -/
def IsScalar (t : Text) : Prop :=
  ∀ c ∈ t, c.isScalar = true

instance (t : Text) : Decidable t.IsScalar :=
  inferInstanceAs (Decidable (∀ c ∈ t, _))

theorem IsPlain.toScalar {t : Text} (h : t.IsPlain) : t.IsScalar :=
  fun c hc => (h c hc).isScalar

theorem IsScalar.append {s t : Text} (hs : s.IsScalar) (ht : t.IsScalar) : IsScalar (s ++ t) := by
  intro c hc
  rcases List.mem_append.mp hc with hc | hc
  · exact hs c hc
  · exact ht c hc

theorem isScalar_lit (s : String) : (lit s).IsScalar := by
  intro c hc
  obtain ⟨sign, -, rfl⟩ := List.mem_map.mp hc
  rfl

theorem isSettled_nil : IsSettled [] :=
  .nil

theorem IsSettled.append {s t : Text} (hs : s.IsSettled) (ht : t.IsSettled)
    (hjoint : ∀ c ∈ s.getLast?, ∀ d ∈ t.head?, c.Apart d) : IsSettled (s ++ t) :=
  List.isChain_append.mpr ⟨hs, ht, hjoint⟩

theorem IsScalar.isSettled {t : Text} (h : t.IsScalar) : t.IsSettled := by
  induction t with
  | nil => exact isSettled_nil
  | cons c t ih =>
    have hrest := ih fun d hd => h d (List.mem_cons_of_mem c hd)
    apply List.IsChain.cons hrest
    intro d _
    exact CodePoint.apart_of_isScalar_left (h c (by simp)) d

/-- In front of scalar values a settled text stays settled. -/
theorem IsSettled.append_isScalar {s t : Text} (hs : s.IsSettled) (ht : t.IsScalar) :
    IsSettled (s ++ t) := by
  apply hs.append ht.isSettled
  intro c _ d hd
  exact CodePoint.apart_of_isScalar_right (ht d (List.mem_of_mem_head? hd)) c

theorem IsScalar.append_isSettled {s t : Text} (hs : s.IsScalar) (ht : t.IsSettled) :
    IsSettled (s ++ t) := by
  apply hs.isSettled.append ht
  intro c hc d _
  exact CodePoint.apart_of_isScalar_left (hs c (List.mem_of_getLast? hc)) d

/-- Spelling some code points in scalar values, and leaving the others, keeps a text settled. -/
theorem IsSettled.flatMap {t : Text} {spell : CodePoint → Text} (ht : t.IsSettled)
    (h : ∀ c, spell c = [c] ∨ (spell c ≠ [] ∧ (spell c).IsScalar)) :
    IsSettled (t.flatMap spell) := by
  have hhead (t : Text) : ∀ d ∈ (t.flatMap spell).head?, d.isScalar ∨ t.head? = some d := by
    intro d hd
    cases t with
    | nil => simp at hd
    | cons c t =>
      rw [List.flatMap_cons] at hd
      rcases h c with hc | ⟨hne, hc⟩
      · rw [hc] at hd
        exact .inr hd
      · rw [List.head?_append_of_ne_nil _ hne] at hd
        exact .inl (hc d (List.mem_of_mem_head? hd))
  induction t with
  | nil => exact isSettled_nil
  | cons c t ih =>
    obtain ⟨hnext, hrest⟩ := List.isChain_cons.mp ht
    have htail := ih hrest
    rw [List.flatMap_cons]
    rcases h c with hc | ⟨-, hc⟩
    · rw [hc]
      apply List.IsChain.cons htail
      intro d hd
      rcases hhead t d hd with hscalar | hfirst
      · exact CodePoint.apart_of_isScalar_right hscalar c
      · exact hnext d hfirst
    · exact hc.append_isSettled htail

/-- Whether a text is settled and stays so whatever settled text comes behind it. -/
structure IsClosed (t : Text) : Prop where
  settled : t.IsSettled
  ending : ∀ c ∈ t.getLast?, c.isHighHalf = false

theorem IsScalar.isClosed {t : Text} (h : t.IsScalar) : t.IsClosed where
  settled := h.isSettled
  ending c hc := CodePoint.isHighHalf_of_isScalar (h c (List.mem_of_getLast? hc))

theorem IsClosed.append_isSettled {s t : Text} (hs : s.IsClosed) (ht : t.IsSettled) :
    IsSettled (s ++ t) := by
  apply hs.settled.append ht
  intro c hc d _ hhalves
  rw [hs.ending c hc] at hhalves
  exact absurd hhalves.1 (by simp)

theorem IsClosed.append {s t : Text} (hs : s.IsClosed) (ht : t.IsClosed) : IsClosed (s ++ t) where
  settled := hs.append_isSettled ht.settled
  ending c hc := by
    rw [List.getLast?_append] at hc
    cases hlast : t.getLast? with
    | none =>
      rw [hlast] at hc
      exact hs.ending c hc
    | some d =>
      rw [hlast] at hc
      obtain rfl := Option.some.inj hc
      exact ht.ending d hlast

theorem escape_eq_flatMap (t : Text) :
    t.escape = t.flatMap fun c => if IsQuote c then [backslash, c] else [c] := by
  induction t with
  | nil => rfl
  | cons c t ih =>
    rw [escape_cons, List.flatMap_cons, ih]
    split <;> rfl

theorem IsSettled.escape {t : Text} (h : t.IsSettled) : t.escape.IsSettled := by
  rw [escape_eq_flatMap]
  apply h.flatMap
  intro c
  split
  · rename_i hquote
    refine .inr ⟨by simp, ?_⟩
    rcases hquote with rfl | rfl <;> decide
  · exact .inl rfl

/-- What is generated from settled texts is settled and ends so that more may follow. -/
theorem Framing.settled : Framing IsSettled IsClosed where
  plain h := h.toScalar.isSettled
  prompted hs ht := hs.toScalar.append_isSettled ht
  escaped h := h.escape
  fixed h := h.toScalar.isClosed
  append hs ht := hs.append ht
  framed hs _ hv ht hne := by
    have hfront := hs.toScalar.append_isSettled hv
    refine ⟨hfront.append_isScalar ht.toScalar, ?_⟩
    intro c hc
    rw [List.getLast?_append_of_ne_nil _ hne] at hc
    exact CodePoint.isHighHalf_of_isScalar (ht.toScalar c (List.mem_of_getLast? hc))

theorem isClosed_newline : IsClosed [newline] :=
  IsScalar.isClosed (by decide)

theorem isScalar_map_scalar (signs : List Char) : IsScalar (signs.map .scalar) := by
  intro c hc
  obtain ⟨sign, -, rfl⟩ := List.mem_map.mp hc
  rfl

theorem isScalar_ofNat (n : Nat) : IsScalar (ofNat n) :=
  isScalar_map_scalar _

theorem isScalar_ofHex (width n : Nat) : IsScalar (ofHex width n) :=
  isScalar_map_scalar _

theorem isScalar_joinWith {separator : Text} {pieces : List Text} (hs : separator.IsScalar)
    (h : ∀ t ∈ pieces, t.IsScalar) : IsScalar (joinWith separator pieces) := by
  induction pieces with
  | nil => exact fun c hc => absurd hc (by simp [joinWith])
  | cons piece pieces ih =>
    rw [List.forall_mem_cons] at h
    cases pieces with
    | nil => exact h.1
    | cons next rest => exact (h.1.append hs).append (ih h.2)

theorem isClosed_ofLines {lines : List Text} (h : ∀ t ∈ lines, t.IsClosed) :
    IsClosed (ofLines lines) :=
  Framing.settled.joinWith isClosed_newline h

theorem isScalar_quoteFor (t : Text) : (quoteFor t).isScalar := by
  rw [quoteFor]
  split <;> rfl

/-- A code point between quotes is left as it is or spelled in scalar values. -/
theorem escapedIn_cases {quote : CodePoint} (hquote : quote.isScalar) (c : CodePoint) :
    c.escapedIn quote = [c] ∨ (c.escapedIn quote ≠ [] ∧ IsScalar (c.escapedIn quote)) := by
  have hhex (start : String) (width n : Nat) (h : lit start ≠ []) :
      lit start ++ ofHex width n ≠ [] ∧ IsScalar (lit start ++ ofHex width n) :=
    ⟨by simp [h], (isScalar_lit start).append (isScalar_ofHex width n)⟩
  unfold CodePoint.escapedIn
  simp only
  split
  · rename_i hmark
    refine .inr ⟨by simp, ?_⟩
    rcases hmark with rfl | rfl
    · intro d hd
      simp only [List.mem_cons, List.not_mem_nil, or_false] at hd
      rcases hd with rfl | rfl
      · rfl
      · exact hquote
    · decide
  · split
    · exact .inr (by decide)
    · split
      · exact .inr (by decide)
      · split
        · exact .inr (by decide)
        · split
          · exact .inl rfl
          · split
            · exact .inr (hhex "\\x" 2 c.value (by decide))
            · split
              · exact .inr (hhex "\\u" 4 c.value (by decide))
              · exact .inr (hhex "\\U" 8 c.value (by decide))

theorem IsSettled.quoted {t : Text} (h : t.IsSettled) : t.quoted.IsClosed := by
  have hquote := isScalar_quoteFor t
  have hcontent : IsSettled (t.flatMap fun c => c.escapedIn (quoteFor t)) :=
    h.flatMap fun c => escapedIn_cases hquote c
  have hmark : IsScalar [quoteFor t] := by simpa [IsScalar] using hquote
  have hbody : IsSettled (quoteFor t :: t.flatMap fun c => c.escapedIn (quoteFor t)) :=
    hmark.append_isSettled hcontent
  refine ⟨hbody.append_isScalar hmark, ?_⟩
  intro c hc
  have hlast : t.quoted.getLast? = some (quoteFor t) := List.getLast?_concat
  rw [hlast] at hc
  obtain rfl := Option.some.inj hc
  exact CodePoint.isHighHalf_of_isScalar hquote

theorem takeUtf8_prefix (size : Nat) (t : Text) : takeUtf8 size t <+: t := by
  induction t generalizing size with
  | nil => exact List.prefix_rfl
  | cons c t ih =>
    rw [takeUtf8]
    split
    · exact (List.prefix_cons_inj c).mpr (ih _)
    · exact List.nil_prefix

theorem takeEndUtf8_suffix (size : Nat) (t : Text) : takeEndUtf8 size t <:+ t := by
  have hprefix := takeUtf8_prefix size t.reverse
  rwa [← List.reverse_suffix, List.reverse_reverse] at hprefix

end Text

end Formwright
