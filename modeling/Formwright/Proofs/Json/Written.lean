import Formwright.Json.Reader
import Formwright.Json.Writer
import Formwright.Proofs.Text.Settled
import Mathlib.Data.List.Nodup

/-!
Written documents read back. A text comes back when no halves of a code point
meet in it: the reader joins the escapes of two halves that follow each other.
The blanks of a layout are passed over.
-/

namespace Formwright

namespace CodePoint

theorem ofNat_half {offset : Nat} (h : offset < 2048) :
    ofNat (0xD800 + offset) = surrogate ⟨offset, h⟩ := by
  have hback : 0xD800 + offset - 0xD800 = offset := Nat.add_sub_cancel_left _ _
  rw [ofNat, dif_pos (by omega)]
  simp only [hback]

theorem isLowHalf_half {offset : Nat} (h : offset < 2048) :
    (surrogate ⟨offset, h⟩).isLowHalf = true ↔ 0x400 ≤ offset :=
  decide_eq_true_iff

theorem ofNat_value (c : CodePoint) : ofNat c.value = c := by
  cases c with
  | scalar c =>
    have hvalid := c.valid
    have hapart : ¬ (0xD800 ≤ c.toNat ∧ c.toNat < 0xE000) := by
      simp only [UInt32.isValidChar, Nat.isValidChar, Char.toNat] at hvalid ⊢
      omega
    rw [value, ofNat, dif_neg hapart, Char.ofNat_toNat]
  | surrogate offset => exact ofNat_half offset.isLt

theorem value_lt (c : CodePoint) : c.value < 0x110000 := by
  cases c with
  | scalar c =>
    have hvalid := c.valid
    simp only [UInt32.isValidChar, Nat.isValidChar] at hvalid
    simp only [value, Char.toNat]
    omega
  | surrogate offset =>
    have hoffset := offset.isLt
    simp only [value]
    omega

theorem hexDigit?_digitChar {d : Nat} (h : d < 16) :
    (scalar (Nat.digitChar d)).hexDigit? = some d := by
  have hall : ∀ d : Fin 16, (scalar (Nat.digitChar d)).hexDigit? = some d.val := by decide
  exact hall ⟨d, h⟩

end CodePoint

theorem Text.ofHex_of_lt {n : Nat} (h : n < 16) : ofHex 1 n = [.scalar (Nat.digitChar n)] := by
  rw [ofHex, Nat.toDigits_of_lt_base h]
  rfl

/-- The last digit of a padded number, and the digits before it. -/
theorem Text.ofHex_succ (width n : Nat) :
    ofHex (width + 2) n = ofHex (width + 1) (n / 16) ++ [.scalar (Nat.digitChar (n % 16))] := by
  simp only [ofHex]
  by_cases h : n < 16
  · rw [Nat.toDigits_of_lt_base h, Nat.div_eq_of_lt h, Nat.toDigits_zero, Nat.mod_eq_of_lt h]
    simp [List.replicate_succ']
  · rw [Nat.toDigits_of_base_le (by omega) (by omega)]
    simp only [List.length_append, List.length_singleton, List.map_append, List.append_assoc,
      List.map_cons, List.map_nil]
    congr 3
    omega

namespace Json

theorem escapeUnit_eq {n : Nat} (h : n < 0x10000) :
    ∃ a b c d, escapeUnit n = [.scalar '\\', .scalar 'u', a, b, c, d] ∧
      hexUnit? a b c d = some n := by
  refine ⟨.scalar (Nat.digitChar (n / 16 / 16 / 16)), .scalar (Nat.digitChar (n / 16 / 16 % 16)),
    .scalar (Nat.digitChar (n / 16 % 16)), .scalar (Nat.digitChar (n % 16)), ?_, ?_⟩
  · rw [escapeUnit, Text.ofHex_succ, Text.ofHex_succ, Text.ofHex_succ,
      Text.ofHex_of_lt (by omega)]
    rfl
  · have hfirst := @CodePoint.hexDigit?_digitChar (n / 16 / 16 / 16) (by omega)
    have hsecond := @CodePoint.hexDigit?_digitChar (n / 16 / 16 % 16) (by omega)
    have hthird := @CodePoint.hexDigit?_digitChar (n / 16 % 16) (by omega)
    have hfourth := @CodePoint.hexDigit?_digitChar (n % 16) (by omega)
    simp only [hexUnit?, hfirst, hsecond, hthird, hfourth, Option.bind_eq_bind, Option.bind_some,
      Option.pure_def, Option.some.injEq]
    omega

/-- A unit that does not complete the code point before it stands for itself. -/
theorem pushUnit_of_apart {after : Bool} {unit : Nat} {reversed : Text}
    (h : ∀ c ∈ reversed.head?, c.Apart (.ofNat unit)) :
    pushUnit after unit reversed = .ofNat unit :: reversed := by
  unfold pushUnit
  split
  · rename_i high before
    split
    · rename_i hpair
      have hhigh : (CodePoint.surrogate high).isHighHalf = true := by
        simpa [CodePoint.isHighHalf] using hpair.1
      have hlow : (CodePoint.ofNat unit).isLowHalf = true := by
        rw [CodePoint.ofNat, dif_pos (by omega), CodePoint.isLowHalf, decide_eq_true_eq]
        show 0x400 ≤ unit - 0xD800
        omega
      exact absurd ⟨hhigh, hlow⟩ (h _ rfl)
    · rfl
  · rfl

/-- The second unit of a pair completes the first. -/
theorem pushUnit_pair {n : Nat} (hge : 0x10000 ≤ n) (hlt : n < 0x110000) (reversed : Text) :
    pushUnit true (0xDC00 + (n - 0x10000) % 0x400)
        (.ofNat (0xD800 + (n - 0x10000) / 0x400) :: reversed) = .ofNat n :: reversed := by
  have hhigh : (n - 0x10000) / 0x400 < 0x400 := by omega
  have hwhole : 0x10000 + (n - 0x10000) / 0x400 * 0x400 +
      (0xDC00 + (n - 0x10000) % 0x400 - 0xDC00) = n := by omega
  rw [CodePoint.ofNat_half (by omega)]
  simp only [pushUnit]
  rw [if_pos ⟨hhigh, by omega, by omega⟩, hwhole]

section Strings

variable {start reversed tail : Text} {after : Bool}

theorem readString_plain {c : CodePoint} (hquote : c ≠ .scalar '"') (hslash : c ≠ .scalar '\\')
    (hcontrol : ¬ c.value < 0x20) :
    readString start after reversed (c :: tail) = readString start false (c :: reversed) tail := by
  rw [readString.eq_def]
  simp only [if_neg hquote, if_neg hslash, if_neg hcontrol]

theorem readString_simple {e c : CodePoint} (hunit : e ≠ .scalar 'u')
    (hsimple : simpleEscape? e = some c) :
    readString start after reversed (.scalar '\\' :: e :: tail) =
      readString start false (c :: reversed) tail := by
  rw [readString.eq_def]
  simp only [CodePoint.scalar.injEq, Char.reduceEq, if_false, if_true, if_neg hunit, hsimple]

theorem readString_unit {n : Nat} (h : n < 0x10000) (htail : tail ≠ []) :
    readString start after reversed (escapeUnit n ++ tail) =
      readString start true (pushUnit after n reversed) tail := by
  obtain ⟨a, b, c, d, hunit, hhex⟩ := escapeUnit_eq h
  obtain ⟨next, tail, rfl⟩ := List.exists_cons_of_ne_nil htail
  rw [hunit]
  rw [readString.eq_def]
  simp only [List.cons_append, List.nil_append, CodePoint.scalar.injEq, Char.reduceEq, if_false,
    if_true, hhex]

theorem readString_pair {n : Nat} (hge : 0x10000 ≤ n) (hlt : n < 0x110000) (htail : tail ≠ []) :
    readString start after reversed (escapeUnit (0xD800 + (n - 0x10000) / 0x400) ++
        escapeUnit (0xDC00 + (n - 0x10000) % 0x400) ++ tail) =
      readString start true (.ofNat n :: reversed) tail := by
  -- The escape of a high half never completes what is before it, and its low half always does.
  have hfirst : ∀ c ∈ reversed.head?, c.Apart (.ofNat (0xD800 + (n - 0x10000) / 0x400)) := by
    intro c _ hhalves
    have hlow := hhalves.2
    rw [CodePoint.ofNat_half (by omega), CodePoint.isLowHalf_half] at hlow
    omega
  have hsecond := List.append_ne_nil_of_right_ne_nil
    (escapeUnit (0xDC00 + (n - 0x10000) % 0x400)) htail
  rw [List.append_assoc, readString_unit (by omega) hsecond, pushUnit_of_apart hfirst,
    readString_unit (by omega) htail, pushUnit_pair hge hlt]

/-- Behind a code point that it does not make another one with, a written code point is read as
itself. -/
theorem readString_writeCodePoint {c : CodePoint} (h : ∀ d ∈ reversed.head?, d.Apart c)
    (htail : tail ≠ []) :
    ∃ after', readString start after reversed (writeCodePoint true c ++ tail) =
      readString start after' (c :: reversed) tail := by
  have hunit {n : Nat} (hn : n < 0x10000) (hc : c.value = n) :
      readString start after reversed (escapeUnit n ++ tail) =
        readString start true (c :: reversed) tail := by
    have hself : CodePoint.ofNat n = c := by rw [← hc, c.ofNat_value]
    rw [readString_unit hn htail, pushUnit_of_apart (by rwa [hself]), hself]
  unfold writeCodePoint
  split
  case h_1 | h_2 | h_3 | h_4 | h_5 | h_6 | h_7 =>
    exact ⟨false, readString_simple (by decide) (by decide)⟩
  case h_8 hquote hslash _ _ _ _ _ =>
    simp only [Bool.not_true, Bool.false_eq_true, or_false]
    split
    · exact ⟨true, hunit (by omega) rfl⟩
    split
    · exact ⟨false, readString_plain hquote hslash (by assumption)⟩
    split
    · exact ⟨true, hunit (by assumption) rfl⟩
    · have hpair := @readString_pair start reversed tail after _ (by omega) c.value_lt htail
      rw [c.ofNat_value] at hpair
      exact ⟨true, hpair⟩

/-- A written text is read as itself when it is settled together with what was read before it. -/
theorem readString_written {t rest : Text} (h : Text.IsSettled (reversed.reverse ++ t)) :
    readString start after reversed
        (t.flatMap (writeCodePoint true) ++ .scalar '"' :: rest) =
      .ok (reversed.reverse ++ t, rest) := by
  induction t generalizing after reversed with
  | nil =>
    rw [List.flatMap_nil, List.nil_append, List.append_nil, readString.eq_def]
    simp only [if_true]
  | cons c t ih =>
    have happend : reversed.reverse ++ c :: t = (c :: reversed).reverse ++ t := by simp
    have hapart : ∀ d ∈ reversed.head?, d.Apart c := by
      intro d hd
      have hjoint := (List.isChain_append.mp h).2.2
      exact hjoint d (by rwa [List.getLast?_reverse]) c rfl
    obtain ⟨after', hstep⟩ := @readString_writeCodePoint start reversed
      (t.flatMap (writeCodePoint true) ++ .scalar '"' :: rest) after c hapart (by simp)
    rw [happend] at h
    rw [List.flatMap_cons, List.append_assoc, hstep, ih h, happend]

theorem readString_whole {t rest : Text} (h : t.IsSettled) :
    readString start after [] (t.flatMap (writeCodePoint true) ++ .scalar '"' :: rest) =
      .ok (t, rest) :=
  @readString_written start [] after t rest h

end Strings

/-- Whether a layout adds only blanks to a document and writes its texts in ASCII. -/
structure Layout.IsReadable (layout : Layout) : Prop where
  item : ∃ blanks, layout.itemSeparator = .scalar ',' :: blanks ∧ ∀ c ∈ blanks, isBlank c
  name : ∃ blanks, layout.nameSeparator = .scalar ':' :: blanks ∧ ∀ c ∈ blanks, isBlank c
  ascii : layout.asciiOnly = true

theorem Layout.isReadable_oneLine : oneLine.IsReadable where
  item := ⟨[.scalar ' '], rfl, by decide⟩
  name := ⟨[.scalar ' '], rfl, by decide⟩
  ascii := rfl

theorem Layout.isReadable_indented (width : Int) : (indented width).IsReadable where
  item := ⟨[], rfl, by simp⟩
  name := ⟨[.scalar ' '], rfl, by decide⟩
  ascii := rfl

theorem Layout.isBlank_lineBreak (layout : Layout) (level : Nat) :
    ∀ c ∈ layout.lineBreak level, isBlank c := by
  intro c hc
  rw [lineBreak] at hc
  split at hc
  · cases hc
  · rcases List.mem_cons.mp hc with rfl | hc
    · rfl
    · rw [List.eq_of_mem_replicate hc]
      rfl

theorem skipBlanks_append {blanks : Text} (h : ∀ c ∈ blanks, isBlank c) (t : Text) :
    skipBlanks (blanks ++ t) = skipBlanks t := by
  induction blanks with
  | nil => rfl
  | cons c blanks ih =>
    rw [List.forall_mem_cons] at h
    rw [List.cons_append, skipBlanks, List.dropWhile_cons_of_pos h.1]
    exact ih h.2

theorem skipBlanks_cons {c : CodePoint} (h : isBlank c = false) (t : Text) :
    skipBlanks (c :: t) = c :: t :=
  List.dropWhile_cons_of_neg (by simp [h])

/-- Whether a document is null, a flag or a settled text. -/
def IsLeaf : Json → Prop
  | null | bool _ => True
  | text t => t.IsSettled
  | _ => False

section Documents

variable {layout : Layout} {limits : Limits} {fuel depth level : Nat}

theorem readValue_leaf (h : layout.IsReadable) {j : Json} (hj : j.IsLeaf) (rest : Text) :
    readValue limits (fuel + 1) depth (writeAt layout level j ++ rest) = .ok (j, rest) := by
  cases j with
  | null => rfl
  | bool b => cases b <;> rfl
  | text t =>
    rw [writeAt, writeText, h.ascii, List.append_assoc, List.cons_append, List.singleton_append,
      readValue, readString_whole hj]
    rfl
  | int | float | array | object => cases hj

theorem skipBlanks_leaf {j : Json} (hj : j.IsLeaf) (rest : Text) :
    skipBlanks (writeAt layout level j ++ rest) = writeAt layout level j ++ rest := by
  cases j with
  | null => rfl
  | bool b => cases b <;> rfl
  | text t => rfl
  | int | float | array | object => cases hj

end Documents

theorem putMember_of_not_mem {α : Type} {name : Text} {value : α} {members : List (Text × α)}
    (h : name ∉ members.map Prod.fst) :
    putMember name value members = members ++ [(name, value)] := by
  induction members with
  | nil => rfl
  | cons member members ih =>
    rw [List.map_cons, List.mem_cons, not_or] at h
    rw [putMember, if_neg (Ne.symm h.1), ih h.2, List.cons_append]

theorem not_mem_of_nodup {α : Type} {name : Text} {value : α} {before members : List (Text × α)}
    (h : ((before ++ (name, value) :: members).map Prod.fst).Nodup) :
    name ∉ before.map Prod.fst := by
  rw [List.map_append, List.map_cons] at h
  intro hmem
  exact (List.nodup_append.mp h).2.2 name hmem name List.mem_cons_self rfl

section Objects

variable {layout : Layout} {limits : Limits} {depth level : Nat}

theorem readMembers_member (h : layout.IsReadable) {fuel : Nat} {before : List (Text × Json)}
    {name tail : Text} {value : Json} (hnew : name ∉ before.map Prod.fst)
    (hname : name.IsSettled) (hvalue : value.IsLeaf) :
    readMembers limits (fuel + 2) depth before
        (writeText true name ++ (layout.nameSeparator ++ (writeAt layout level value ++ tail))) =
      match skipBlanks tail with
      | .scalar '}' :: rest => .ok (.object (before ++ [(name, value)]), rest)
      | .scalar ',' :: rest =>
        readMembers limits (fuel + 1) depth (before ++ [(name, value)]) (skipBlanks rest)
      | rest => .error (.complaint .comma rest.length) := by
  obtain ⟨blanks, hseparator, hblanks⟩ := h.name
  rw [writeText, List.append_assoc, List.cons_append, List.singleton_append, readMembers,
    readString_whole hname, hseparator]
  simp only [bind, Except.bind, List.cons_append, skipBlanks_cons (c := .scalar ':') rfl,
    skipBlanks_append hblanks, skipBlanks_leaf hvalue, readValue_leaf h hvalue,
    putMember_of_not_mem hnew]
  rfl

/-- What is written of a list of members is read behind the members before them. -/
theorem readMembers_written (h : layout.IsReadable) {close rest : Text}
    (hclose : ∀ c ∈ close, isBlank c) {fuel : Nat} {before members : List (Text × Json)}
    {name : Text} {value : Json} (hfuel : members.length < fuel)
    (hnames : ((before ++ (name, value) :: members).map Prod.fst).Nodup)
    (hleaf : ∀ member ∈ (name, value) :: members, member.1.IsSettled ∧ member.2.IsLeaf) :
    readMembers limits (fuel + 1) depth before
        (writeText true name ++ (layout.nameSeparator ++ (writeAt layout level value ++
          (writeMembers layout level members ++ (close ++ .scalar '}' :: rest))))) =
      .ok (.object (before ++ (name, value) :: members), rest) := by
  obtain ⟨blanks, hitem, hblanks⟩ := h.item
  induction members generalizing fuel before name value with
  | nil =>
    obtain ⟨fuel, rfl⟩ := Nat.exists_eq_add_of_lt hfuel
    obtain ⟨hname, hvalue⟩ : name.IsSettled ∧ value.IsLeaf := hleaf _ List.mem_cons_self
    rw [readMembers_member h (not_mem_of_nodup hnames) hname hvalue, writeMembers, List.nil_append,
      skipBlanks_append hclose, skipBlanks_cons (c := .scalar '}') rfl]
    rfl
  | cons member members ih =>
    obtain ⟨next, nextValue⟩ := member
    obtain ⟨fuel, rfl⟩ := Nat.exists_eq_add_of_lt hfuel
    obtain ⟨hname, hvalue⟩ : name.IsSettled ∧ value.IsLeaf := hleaf _ List.mem_cons_self
    have hopening (t : Text) : skipBlanks (writeText true next ++ t) = writeText true next ++ t :=
      skipBlanks_cons rfl _
    rw [readMembers_member h (not_mem_of_nodup hnames) hname hvalue, writeMembers, hitem, h.ascii]
    simp only [List.append_assoc, List.cons_append, skipBlanks_cons (c := .scalar ',') rfl,
      skipBlanks_append hblanks, skipBlanks_append (layout.isBlank_lineBreak level), hopening]
    have happend := List.append_cons before (name, value) ((next, nextValue) :: members)
    rw [happend] at hnames ⊢
    exact ih (Nat.lt_of_succ_le (Nat.le_add_right _ fuel)) hnames fun member hmember =>
      hleaf member (List.mem_cons_of_mem _ hmember)

theorem length_le_writeMembers (layout : Layout) (level : Nat) (members : List (Text × Json)) :
    members.length ≤ (writeMembers layout level members).length := by
  induction members with
  | nil => exact Nat.zero_le _
  | cons member members ih =>
    simp only [writeMembers, writeText, List.length_append, List.length_cons]
    omega

theorem readWithin_object {body : Text} {j : Json}
    (h : readValue limits (2 * (body.length + 1) + 2) limits.nesting (.scalar '{' :: body) =
      .ok (j, [])) : readWithin limits (.scalar '{' :: body) = .ok j := by
  rw [readWithin.eq_def]
  split
  · rename_i hmark
    cases (List.cons.inj hmark).1
  · simp only [skipBlanks_cons (c := .scalar '{') rfl, List.length_cons, h]
    rfl

/-- A written object is read as itself when its names are distinct and it holds settled texts,
flags and nulls only. -/
theorem read_write (h : layout.IsReadable) {members : List (Text × Json)}
    (hnames : (members.map Prod.fst).Nodup)
    (hleaf : ∀ member ∈ members, member.1.IsSettled ∧ member.2.IsLeaf) :
    read (write layout (.object members)) = .ok (.object members) := by
  cases members with
  | nil => rfl
  | cons member members =>
    obtain ⟨name, value⟩ := member
    have hshape : write layout (.object ((name, value) :: members)) =
        .scalar '{' :: (layout.lineBreak 1 ++ (writeText true name ++ (layout.nameSeparator ++
          (writeAt layout 1 value ++ (writeMembers layout 1 members ++
            (layout.lineBreak 0 ++ [.scalar '}'])))))) := by
      simp only [write, writeAt, h.ascii, List.append_assoc]
      rfl
    have hopening (t : Text) : skipBlanks (writeText true name ++ t) = writeText true name ++ t :=
      skipBlanks_cons rfl _
    have hlength := length_le_writeMembers layout 1 members
    rw [hshape]
    apply readWithin_object
    show readValue .usual _ 990 _ = _
    rw [readValue, skipBlanks_append (layout.isBlank_lineBreak 1), hopening]
    apply readMembers_written h (layout.isBlank_lineBreak 0) _ hnames hleaf
    simp only [List.length_append]
    omega

end Objects

end Json

end Formwright
