import Formwright.Proofs.Script.Balance
import Mathlib.Algebra.Group.Nat.Even
import Mathlib.Data.List.Induction

/-!
The message of a rule as a script reads it. A literal is read from behind its opening
apostrophe: a backslash takes the next sign with it, an apostrophe closes the literal and
a line break is an error. Escaping puts a backslash in front of each quote and leaves
those that are there, so a label can take the new backslash away. How many backslashes
stand in a row decides it: behind an even number the next sign is read for itself, behind
an odd number it is taken. From this the labels are told for which the literal ends where
it was meant to end.
-/

namespace Formwright

open Text (apostrophe backslash doubleQuote IsQuote)

namespace Text

/-- The number of backslashes that a text ends with. -/
def trailingBackslashes (t : Text) : Nat :=
  (t.reverse.takeWhile (· = backslash)).length

/-- The number of backslashes that stand right in front of a place in a text. -/
def backslashesBefore (t : Text) (i : Nat) : Nat :=
  trailingBackslashes (t.take i)

/-- Whether a label stays in the literal it is escaped for: every apostrophe and the end stand
behind an even number of backslashes, every line break behind an odd number. -/
structure StaysInside (t : Text) : Prop where
  apostrophes : ∀ i < t.length, t[i]? = some apostrophe → Even (t.backslashesBefore i)
  lineFeeds : ∀ i < t.length, t[i]? = some newline → ¬ Even (t.backslashesBefore i)
  carriageReturns : ∀ i < t.length, t[i]? = some carriageReturn → ¬ Even (t.backslashesBefore i)
  ending : Even (t.backslashesBefore t.length)

theorem staysInside_iff {t : Text} : t.StaysInside ↔
    (∀ i < t.length, t[i]? = some apostrophe → Even (t.backslashesBefore i)) ∧
      (∀ i < t.length, t[i]? = some newline → ¬ Even (t.backslashesBefore i)) ∧
      (∀ i < t.length, t[i]? = some carriageReturn → ¬ Even (t.backslashesBefore i)) ∧
      Even (t.backslashesBefore t.length) :=
  ⟨fun h => ⟨h.1, h.2, h.3, h.4⟩, fun h => ⟨h.1, h.2.1, h.2.2.1, h.2.2.2⟩⟩

instance (t : Text) : Decidable t.StaysInside :=
  decidable_of_iff _ staysInside_iff.symm

theorem trailingBackslashes_concat (t : Text) (c : CodePoint) :
    trailingBackslashes (t ++ [c]) = if c = backslash then trailingBackslashes t + 1 else 0 := by
  rw [trailingBackslashes, List.reverse_concat, List.takeWhile_cons]
  by_cases h : c = backslash
  · simp [h, trailingBackslashes]
  · simp [h]

theorem backslashesBefore_length (t : Text) :
    t.backslashesBefore t.length = t.trailingBackslashes := by
  rw [backslashesBefore, List.take_length]

theorem backslashesBefore_append {t : Text} {i : Nat} (h : i ≤ t.length) (s : Text) :
    backslashesBefore (t ++ s) i = t.backslashesBefore i := by
  rw [backslashesBefore, List.take_append_of_le_length h, backslashesBefore]

/-- What holds at every place of a sign in a longer text, told of the places before and of the
last. -/
theorem forall_places_concat {t : Text} {c d : CodePoint} {p : Nat → Prop} :
    (∀ i < (t ++ [c]).length, (t ++ [c])[i]? = some d → p (backslashesBefore (t ++ [c]) i)) ↔
      (∀ i < t.length, t[i]? = some d → p (t.backslashesBefore i)) ∧
        (c = d → p t.trailingBackslashes) := by
  rw [List.length_append, List.length_singleton, Nat.forall_lt_succ_right,
    backslashesBefore_append (Nat.le_refl _), backslashesBefore_length, List.getElem?_concat_length,
    Option.some.injEq]
  refine and_congr_left fun _ => forall₂_congr fun i hi => ?_
  rw [List.getElem?_append_left hi, backslashesBefore_append (Nat.le_of_lt hi)]

end Text

namespace Script

/-- The mode in a literal behind a sign that does not close it. -/
def Mode.inside? (mode : Mode) (c : CodePoint) : Option Mode :=
  (mode.step? c).bind fun (next, _) => if next = .code then none else some next

/-- The literal that is read in a mode up to the apostrophe that closes it, and the text behind. -/
def literalFrom? (mode : Mode) : Text → Option (Text × Text)
  | [] => none
  | c :: rest =>
    (mode.step? c).bind fun (next, _) =>
      if next = .code then some ([], rest)
      else (literalFrom? next rest).map fun (content, behind) => (c :: content, behind)

/-- The literal that a text goes on with behind an opening apostrophe, and the text behind it. -/
def literal? (t : Text) : Option (Text × Text) :=
  literalFrom? .literal t

/-- The text that a literal stands for: a backslash goes and the sign that it takes stays. -/
def unescape : Text → Text
  | [] => []
  | [c] => [c]
  | c :: d :: rest => if c = backslash then d :: unescape rest else c :: unescape (d :: rest)

/-- A literal ends at the apostrophe behind a text exactly when the text keeps it open. -/
theorem literalFrom?_append_iff {mode : Mode} {t behind : Text} :
    literalFrom? mode (t ++ apostrophe :: behind) = some (t, behind) ↔
      Scans Mode.inside? t mode .literal := by
  induction t generalizing mode with
  | nil =>
    have hnil : Scans Mode.inside? [] mode .literal ↔ mode = .literal := by
      simp [Scans]
    rw [hnil, List.nil_append, literalFrom?]
    cases mode <;> simp [Mode.step?, show apostrophe ≠ backslash by decide]
  | cons c t ih =>
    rw [Scans.cons_iff, List.cons_append, literalFrom?, Mode.inside?]
    cases mode.step? c with
    | none => simp
    | some change =>
      by_cases hcode : change.1 = .code
      · simp [hcode]
      · simp [hcode, ← ih]

/-- The mode in a literal behind a run of backslashes. -/
def Mode.behind (backslashes : Nat) : Mode :=
  if Even backslashes then .literal else .escaped

theorem Mode.behind_eq_literal {n : Nat} : behind n = .literal ↔ Even n := by
  rw [behind]
  split <;> simp_all

theorem Mode.inside?_escaped (c : CodePoint) : inside? .escaped c = some .literal := rfl

theorem Mode.inside?_literal (c : CodePoint) : inside? .literal c =
    if c = backslash then some .escaped
    else if c = apostrophe ∨ c = newline ∨ c = carriageReturn then none
    else some .literal := by
  by_cases hbackslash : c = backslash
  · simp [inside?, step?, hbackslash]
  · by_cases hquote : c = apostrophe
    · subst hquote
      rfl
    · by_cases hbreak : c = newline ∨ c = carriageReturn <;>
        simp [inside?, step?, hbackslash, hquote, hbreak]

/-- What a sign in its escaped form does behind an even number of backslashes. -/
theorem scans_escape_of_literal {c : CodePoint} {mode : Mode} :
    Scans Mode.inside? (Text.escape [c]) .literal mode ↔
      (c ≠ newline ∧ c ≠ carriageReturn) ∧
        mode = if c = backslash then .escaped else .literal := by
  have hbreaks : backslash ≠ newline ∧ backslash ≠ carriageReturn := by decide
  rw [Text.escape_cons, Text.escape_nil]
  split
  · rename_i hquote
    have hc : c ≠ newline ∧ c ≠ carriageReturn ∧ c ≠ backslash := by
      rcases hquote with rfl | rfl <;> decide
    have hguard : Mode.inside? .literal backslash = some .escaped := rfl
    simp [Scans, hguard, Mode.inside?_escaped, hc, eq_comm]
  · rename_i hquote
    have happ : c ≠ apostrophe := fun h => hquote (.inl h)
    rw [Scans.singleton_iff, Mode.inside?_literal]
    by_cases hbackslash : c = backslash
    · simp [hbackslash, hbreaks, eq_comm]
    · by_cases hbreak : c = newline ∨ c = carriageReturn
      · simp [hbackslash, hbreak, ← not_or]
      · simp [hbackslash, happ, hbreak, ← not_or, eq_comm]

/-- What a sign in its escaped form does behind an odd number of backslashes. -/
theorem scans_escape_of_escaped {c : CodePoint} {mode : Mode} :
    Scans Mode.inside? (Text.escape [c]) .escaped mode ↔ c ≠ apostrophe ∧ mode = .literal := by
  rw [Text.escape_cons, Text.escape_nil]
  split
  · rename_i hquote
    have hc : c ≠ newline ∧ c ≠ carriageReturn ∧ c ≠ backslash := by
      rcases hquote with rfl | rfl <;> decide
    simp only [Scans.cons_iff, Mode.inside?_escaped, Option.some.injEq, exists_eq_left',
      Mode.inside?_literal, hc, if_false, or_false]
    by_cases happ : c = apostrophe
    · simp [happ]
    · simp [happ, Scans, eq_comm]
  · rename_i hquote
    have happ : c ≠ apostrophe := fun h => hquote (.inl h)
    rw [Scans.singleton_iff, Mode.inside?_escaped]
    simp [happ, eq_comm]

/-- What a sign in its escaped form does behind a run of backslashes. -/
theorem scans_escape_singleton_iff {c : CodePoint} {n : Nat} {mode : Mode} :
    Scans Mode.inside? (Text.escape [c]) (.behind n) mode ↔
      mode = .behind (if c = backslash then n + 1 else 0) ∧ (c = apostrophe → Even n) ∧
        (c = newline → ¬ Even n) ∧ (c = carriageReturn → ¬ Even n) := by
  by_cases heven : Even n
  · have hmode : Mode.behind n = .literal := if_pos heven
    have hnext : ¬ Even (n + 1) := by simpa [Nat.even_add_one] using heven
    have hbehind : Mode.behind (if c = backslash then n + 1 else 0) =
        if c = backslash then .escaped else .literal := by
      split
      · exact if_neg hnext
      · rfl
    rw [hmode, hbehind, scans_escape_of_literal]
    simp [heven, and_comm]
  · have hmode : Mode.behind n = .escaped := if_neg heven
    have hnext : Even (n + 1) := Nat.even_add_one.mpr heven
    have hbehind : Mode.behind (if c = backslash then n + 1 else 0) = .literal := by
      split
      · exact if_pos hnext
      · rfl
    rw [hmode, hbehind, scans_escape_of_escaped]
    simp [heven, and_comm]

/-- An escaped label is scanned from its start exactly when it stays inside, and then the mode
behind it tells whether the number of backslashes at its end is even. -/
theorem scans_escape_iff {label : Text} {mode : Mode} :
    Scans Mode.inside? label.escape .literal mode ↔
      mode = .behind (Text.trailingBackslashes label) ∧
      (∀ i < label.length, label[i]? = some apostrophe → Even (label.backslashesBefore i)) ∧
      (∀ i < label.length, label[i]? = some newline → ¬ Even (label.backslashesBefore i)) ∧
      (∀ i < label.length, label[i]? = some carriageReturn → ¬ Even (label.backslashesBefore i)) := by
  -- The last sign is read in the mode that the signs in front of it lead to.
  induction label using List.reverseRecOn generalizing mode with
  | nil => simp [Scans, Text.escape_nil, Mode.behind, Text.trailingBackslashes, eq_comm]
  | append_singleton label c ih =>
    have hplaces (d : CodePoint) (p : Nat → Prop) := @Text.forall_places_concat label c d p
    rw [Text.escape_append, Scans.append_iff]
    simp only [ih, and_assoc, exists_eq_left, scans_escape_singleton_iff, hplaces _ Even,
      hplaces _ fun n => ¬ Even n, Text.trailingBackslashes_concat]
    tauto

theorem unescape_cons {c : CodePoint} (hc : c ≠ backslash) (t : Text) :
    unescape (c :: t) = c :: unescape t := by
  cases t with
  | nil => rfl
  | cons d t => rw [unescape, if_neg hc]

theorem unescape_append {s : Text} (hs : backslash ∉ s) (t : Text) :
    unescape (s ++ t) = s ++ unescape t := by
  induction s with
  | nil => rfl
  | cons c s ih =>
    have hc : c ≠ backslash := fun hc => hs (by simp [hc])
    rw [List.cons_append, unescape_cons hc, ih fun hmem => hs (List.mem_cons_of_mem c hmem),
      List.cons_append]

theorem unescape_escape {t : Text} (h : backslash ∉ t) : unescape t.escape = t := by
  induction t with
  | nil => rfl
  | cons c t ih =>
    have hc : c ≠ backslash := fun hc => h (by simp [hc])
    have ht := ih fun hmem => h (List.mem_cons_of_mem c hmem)
    rw [Text.escape_cons]
    split
    · rw [unescape, if_pos rfl, ht]
    · rw [unescape_cons hc, ht]

theorem Mode.scans_prompt_iff {mode : Mode} :
    Scans inside? (lit "please enter ") .literal mode ↔ mode = .literal := by
  have hprompt : (lit "please enter ").foldlM inside? .literal = some .literal := by decide
  rw [Scans, hprompt, Option.some.injEq, eq_comm]

/-- The message of a rule is read as one literal exactly for the labels that stay inside. -/
theorem literal?_message_iff {label behind : Text} :
    literal? (lit "please enter " ++ label.escape ++ apostrophe :: behind) =
        some (lit "please enter " ++ label.escape, behind) ↔ label.StaysInside := by
  rw [literal?, literalFrom?_append_iff, Scans.append_iff]
  simp only [Mode.scans_prompt_iff, exists_eq_left, scans_escape_iff, Text.staysInside_iff,
    eq_comm (a := Mode.literal), Mode.behind_eq_literal, Text.backslashesBefore_length]
  tauto

end Script

namespace Text

theorem trailingBackslashes_of_not_mem {t : Text} (h : backslash ∉ t) :
    trailingBackslashes t = 0 := by
  rw [trailingBackslashes]
  cases hreverse : t.reverse with
  | nil => rfl
  | cons c s =>
    have hmem : c ∈ t := List.mem_reverse.mp (by rw [hreverse]; exact List.mem_cons_self)
    have hc : c ≠ backslash := fun hc => h (hc ▸ hmem)
    rw [List.takeWhile_cons_of_neg (by simpa using hc), List.length_nil]

/-- A label without backslashes and line breaks stays inside. -/
theorem IsUnbroken.staysInside {t : Text} (h : t.IsUnbroken) : t.StaysInside := by
  have hbackslash : backslash ∉ t := fun hmem => (h _ hmem).1 rfl
  have heven (i : Nat) : Even (t.backslashesBefore i) := by
    rw [backslashesBefore,
      trailingBackslashes_of_not_mem fun hmem => hbackslash (List.mem_of_mem_take hmem)]
    exact Even.zero
  constructor
  case apostrophes => exact fun i _ _ => heven i
  case lineFeeds => exact fun i _ hi => absurd rfl (h _ (List.mem_of_getElem? hi)).2.1
  case carriageReturns => exact fun i _ hi => absurd rfl (h _ (List.mem_of_getElem? hi)).2.2
  case ending => exact heven t.length

theorem joinWith_append_cons (separator : Text) (before : List Text) (piece : Text)
    (after : List Text) :
    joinWith separator (before ++ piece :: after) =
      before.flatMap (· ++ separator) ++ piece ++ after.flatMap (separator ++ ·) := by
  have hafter : joinWith separator (piece :: after) = piece ++ after.flatMap (separator ++ ·) := by
    induction after generalizing piece with
    | nil => simp [joinWith]
    | cons next after ih => rw [joinWith, ih, List.flatMap_cons, List.append_assoc, List.append_assoc]
  induction before with
  | nil => exact hafter
  | cons first before ih =>
    cases before with
    | nil => simp [joinWith, hafter]
    | cons second before =>
      simp only [List.cons_append] at ih
      simp only [List.cons_append, joinWith, ih, List.flatMap_cons, List.append_assoc]

theorem ofLines_append {lines : List Text} (h : lines ≠ []) (lines' : List Text) :
    ofLines (lines ++ lines') = ofLines lines ++ ofLedLines lines' := by
  obtain ⟨line, lines, rfl⟩ := List.exists_cons_of_ne_nil h
  rw [List.cons_append, ofLines_cons, ofLines_cons, ofLedLines_append, List.append_assoc]

end Text

namespace Script

/-- The script of items in front of its rules. -/
def frontOfRules (items : List Item) : Text :=
  Text.ofLines (header ++ interfaceOpening :: (items.map Item.member).map interfaceMember ++
    [lit "\x7d", [], lit "// Form data", dataOpening,
      entries ((items.map Item.member).map dataEntry), closing, [],
      lit "// Form validation rules", rulesOpening])

/-- A rule in front of its message. -/
def ruleStart (field : Text) : Text :=
  lit "  " ++ field ++ lit ": [" ++ newline :: lit "    \x7b required: true, message: "

/-- A rule behind its message. -/
def ruleEnd (trigger : Text) : Text :=
  lit ", trigger: '" ++ trigger ++ lit "' \x7d" ++ newline :: lit "  ]"

/-- The script in front of the message of an item that stands between others. -/
def frontOfMessage (before : List Item) (item : Item) (after : List Item) : Text :=
  frontOfRules (before ++ item :: after) ++ newline ::
    ((before.filter (·.required)).flatMap (fun i => ruleEntry i.rule ++ (lit "," ++ [newline])) ++
      ruleStart item.field)

theorem build_eq (items : List Item) :
    build items = frontOfRules items ++ newline ::
      (entries ((items.filter (·.required)).map fun item => ruleEntry item.rule) ++
        Text.ofLedLines (closing :: [] :: submission)) := by
  have hlines : lines (items.map Item.member) ((items.filter (·.required)).map Item.rule) =
      (header ++ interfaceOpening :: (items.map Item.member).map interfaceMember ++
        [lit "\x7d", [], lit "// Form data", dataOpening,
          entries ((items.map Item.member).map dataEntry), closing, [],
          lit "// Form validation rules", rulesOpening]) ++
      entries ((items.filter (·.required)).map fun item => ruleEntry item.rule) ::
        closing :: [] :: submission := by
    simp [lines, Function.comp_def]
  rw [build, ofMembers, hlines, Text.ofLines_append (by simp)]
  rfl

/-- A rule around its message. -/
theorem ruleEntry_eq (r : Rule) :
    ruleEntry r = ruleStart r.field ++ apostrophe :: (ruleMessage r ++ apostrophe ::
      ruleEnd r.trigger) := by
  have hopening : lit "    \x7b required: true, message: '" =
      lit "    \x7b required: true, message: " ++ [apostrophe] := rfl
  have hmiddle : lit "', trigger: '" = apostrophe :: lit ", trigger: '" := rfl
  rw [ruleEntry, hopening, hmiddle]
  simp [Text.ofLines, Text.joinWith, ruleStart, ruleEnd]

/-- The script around the message of an item. -/
theorem build_eq_message (before after : List Item) {item : Item} (h : item.required) :
    ∃ behind, build (before ++ item :: after) = frontOfMessage before item after ++
      apostrophe :: (ruleMessage item.rule ++ apostrophe ::
        (ruleEnd item.rule.trigger ++ behind)) := by
  have hitems : (before ++ item :: after).filter (·.required) =
      before.filter (·.required) ++ item :: after.filter (·.required) := by
    rw [List.filter_append, List.filter_cons_of_pos (by simpa using h)]
  rw [build_eq, hitems, List.map_append, List.map_cons, entries, Text.joinWith_append_cons,
    ruleEntry_eq, frontOfMessage, List.flatMap_map]
  refine ⟨((after.filter (·.required)).map fun item => ruleEntry item.rule).flatMap
    ((lit "," ++ [newline]) ++ ·) ++ Text.ofLedLines (closing :: [] :: submission), ?_⟩
  simp only [Item.rule, List.append_assoc, List.cons_append]

/-- Where the literal of a rule's message ends. However the items around a required item are, the
literal with the message of its rule ends at the apostrophe that was written to close it exactly
when its label stays inside; and for a label without backslashes and line breaks it stands for the
prompt with the label. -/
theorem literal?_build (before after : List Item) {item : Item} (h : item.required) :
    ∃ behind, build (before ++ item :: after) = frontOfMessage before item after ++
        apostrophe :: (ruleMessage item.rule ++ apostrophe ::
          (ruleEnd item.rule.trigger ++ behind)) ∧
      (literal? (ruleMessage item.rule ++ apostrophe :: (ruleEnd item.rule.trigger ++ behind)) =
          some (ruleMessage item.rule, ruleEnd item.rule.trigger ++ behind) ↔
        item.label.StaysInside) ∧
      (item.label.IsUnbroken → ∃ content,
        literal? (ruleMessage item.rule ++ apostrophe :: (ruleEnd item.rule.trigger ++ behind)) =
            some (content, ruleEnd item.rule.trigger ++ behind) ∧
          unescape content = lit "please enter " ++ item.label) := by
  obtain ⟨behind, hbuild⟩ := build_eq_message before after h
  have hends : literal? (ruleMessage item.rule ++ apostrophe ::
        (ruleEnd item.rule.trigger ++ behind)) =
      some (ruleMessage item.rule, ruleEnd item.rule.trigger ++ behind) ↔
        item.label.StaysInside := literal?_message_iff
  refine ⟨behind, hbuild, hends, ?_⟩
  intro hlabel
  have hbackslash : backslash ∉ item.label := fun hmem => (hlabel _ hmem).1 rfl
  have hprompt : backslash ∉ lit "please enter " := by decide
  refine ⟨ruleMessage item.rule, hends.mpr hlabel.staysInside, ?_⟩
  rw [ruleMessage, unescape_append hprompt]
  exact congrArg (lit "please enter " ++ ·) (unescape_escape hbackslash)

/-- Two backslashes in front of a letter, an apostrophe and a line that is continued. -/
theorem literal?_build_continued :
    ∃ behind, literal? (lit "please enter \\\\it\\'s \\" ++ newline :: lit "on', trigger: 'blur' \x7d" ++
        newline :: lit "  ]" ++ behind) =
      some (lit "please enter \\\\it\\'s \\" ++ newline :: lit "on",
        lit ", trigger: 'blur' \x7d" ++ newline :: lit "  ]" ++ behind) := by
  obtain ⟨behind, -, hends, -⟩ := @literal?_build
    [⟨⟨1, lit "A", lit "a", none, true, false⟩, .date⟩] []
    ⟨⟨2, lit "\\\\it's \\" ++ newline :: lit "on", lit "b", none, true, false⟩, .input⟩ rfl
  exact ⟨behind, hends.mpr (by decide)⟩

/-- A label that ends with a backslash takes the closing apostrophe along. -/
example : ¬ Text.StaysInside (lit "C:\\") := by decide

end Script

end Formwright
