import Formwright.Component.Script
import Formwright.Proofs.Text.Escape
import Formwright.Proofs.Text.Lines
import Formwright.Proofs.Text.Scan

/-!
Scanning a script for what it opens and closes. Outside a literal an apostrophe opens
one and brackets are counted off against each other; inside, a backslash takes the next
sign with it and the next apostrophe closes. What a text does to the brackets that are
due does not depend on those below, so fixed texts are scanned once, with nothing due,
and the members and rules of the items are put between them.
-/

namespace Formwright

open Text (apostrophe backslash IsQuote)

def carriageReturn : CodePoint := .scalar '\r'

namespace Script

inductive Mode where
  | code
  | literal
  /-- Inside a literal and behind a backslash. -/
  | escaped
  deriving DecidableEq

/-- What a sign does to the closing brackets that are due. -/
inductive Change where
  | none
  | opens (closer : CodePoint)
  | closes (closer : CodePoint)

/-- Where a scan stands, with the closing brackets that are due, the next one first. -/
structure Position where
  mode : Mode
  due : List CodePoint
  deriving DecidableEq

namespace Change

/-- What a sign of code does to the closing brackets that are due. -/
def ofSign (c : CodePoint) : Change :=
  if c = .scalar '(' then opens (.scalar ')')
  else if c = .scalar '[' then opens (.scalar ']')
  else if c = .scalar '\x7b' then opens (.scalar '\x7d')
  else if c = .scalar ')' ∨ c = .scalar ']' ∨ c = .scalar '\x7d' then closes c
  else none

/-- The closing brackets that are due after a change; only the next one may come. -/
def leaves? : Change → List CodePoint → Option (List CodePoint)
  | none, due => some due
  | opens closer, due => some (closer :: due)
  | closes _, [] => Option.none
  | closes closer, next :: due => if closer = next then some due else Option.none

theorem leaves?_append {change : Change} {due due' : List CodePoint}
    (h : change.leaves? due = some due') (below : List CodePoint) :
    change.leaves? (due ++ below) = some (due' ++ below) := by
  cases change with
  | none =>
    cases h
    rfl
  | opens closer =>
    cases h
    rfl
  | closes closer =>
    cases due with
    | nil => cases h
    | cons next due =>
      rw [leaves?] at h
      split at h
      · rename_i hnext
        cases h
        rw [List.cons_append, leaves?, if_pos hnext]
      · cases h

end Change

namespace Mode

/-- The mode behind a sign and what the sign does to the brackets that are due. A line break in a
literal is an error. -/
def step? : Mode → CodePoint → Option (Mode × Change)
  | code, c => some (if c = apostrophe then (literal, .none) else (code, .ofSign c))
  | literal, c =>
    if c = backslash then some (escaped, .none)
    else if c = apostrophe then some (code, .none)
    else if c = newline ∨ c = carriageReturn then none
    else some (literal, .none)
  | escaped, _ => some (literal, .none)

end Mode

namespace Position

def step? (p : Position) (c : CodePoint) : Option Position :=
  (p.mode.step? c).bind fun (mode, change) => (change.leaves? p.due).map (Position.mk mode)

/-- The position with further brackets due below the others. -/
def above (p : Position) (below : List CodePoint) : Position :=
  ⟨p.mode, p.due ++ below⟩

theorem step?_above {p q : Position} {c : CodePoint} (h : p.step? c = some q)
    (below : List CodePoint) : (p.above below).step? c = some (q.above below) := by
  obtain ⟨⟨mode, change⟩, hmode, hchange⟩ := Option.bind_eq_some_iff.mp h
  obtain ⟨due, hdue, rfl⟩ := Option.map_eq_some_iff.mp hchange
  have habove := Change.leaves?_append hdue below
  simp only [step?, above, hmode, Option.bind_some, habove, Option.map_some]

end Position

/-- The position behind a script that is scanned from its start. -/
def scan? (script : Text) : Option Position :=
  script.foldlM Position.step? ⟨.code, []⟩

/-- Whether a scan gets from one position to the other by a text. -/
abbrev Leads (t : Text) (p q : Position) : Prop :=
  Scans Position.step? t p q

/-- A text leads on in the same way whatever else is due. -/
theorem Leads.above {t : Text} {p q : Position} (h : Leads t p q) (below : List CodePoint) :
    Leads t (p.above below) (q.above below) := by
  induction t generalizing p with
  | nil =>
    cases h
    exact .nil _
  | cons c t ih =>
    obtain ⟨p', hc, ht⟩ := Scans.cons_iff.mp h
    exact .cons (Position.step?_above hc below) (ih ht)

/-- Whether a text of code opens and closes the same, in literals and in brackets. -/
def Balanced (t : Text) : Prop :=
  Leads t ⟨.code, []⟩ ⟨.code, []⟩

instance (t : Text) : Decidable (Balanced t) :=
  inferInstanceAs (Decidable (Leads _ _ _))

theorem Balanced.leads {t : Text} (h : Balanced t) (due : List CodePoint) :
    Leads t ⟨.code, due⟩ ⟨.code, due⟩ :=
  Leads.above h due

theorem Balanced.append {s t : Text} (hs : Balanced s) (ht : Balanced t) : Balanced (s ++ t) :=
  Scans.append hs ht

theorem Balanced.joinWith {separator : Text} {pieces : List Text} (hs : Balanced separator)
    (h : ∀ t ∈ pieces, Balanced t) : Balanced (Text.joinWith separator pieces) := by
  induction pieces with
  | nil => exact .nil _
  | cons piece pieces ih =>
    rw [List.forall_mem_cons] at h
    cases pieces with
    | nil => exact h.1
    | cons next rest => exact (h.1.append hs).append (ih h.2)

end Script

namespace Text

def brackets : Text := lit "()[]\x7b\x7d"

/-- Whether a text holds no apostrophe and no bracket. A name of letters, digits, low lines and
dollar signs holds none. -/
def IsBare (t : Text) : Prop :=
  ∀ c ∈ t, c ≠ apostrophe ∧ c ∉ brackets

instance (t : Text) : Decidable t.IsBare :=
  inferInstanceAs (Decidable (∀ c ∈ t, _))

/-- Whether a text holds no backslash and no line break. -/
def IsUnbroken (t : Text) : Prop :=
  ∀ c ∈ t, c ≠ backslash ∧ c ≠ newline ∧ c ≠ carriageReturn

instance (t : Text) : Decidable t.IsUnbroken :=
  inferInstanceAs (Decidable (∀ c ∈ t, _))

end Text

namespace Script

theorem Change.ofSign_eq_none {c : CodePoint} (h : c ∉ Text.brackets) : ofSign c = none := by
  have hne {d : CodePoint} (hd : d ∈ Text.brackets) : c ≠ d := fun hc => h (hc ▸ hd)
  have hopen : c ≠ .scalar '(' ∧ c ≠ .scalar '[' ∧ c ≠ .scalar '\x7b' :=
    ⟨hne (by decide), hne (by decide), hne (by decide)⟩
  have hclose : c ≠ .scalar ')' ∧ c ≠ .scalar ']' ∧ c ≠ .scalar '\x7d' :=
    ⟨hne (by decide), hne (by decide), hne (by decide)⟩
  simp [ofSign, hopen, hclose]

theorem balanced_of_isBare {t : Text} (h : t.IsBare) : Balanced t := by
  apply Scans.of_forall
  intro c hc
  obtain ⟨hquote, hbracket⟩ := h c hc
  simp [Position.step?, Mode.step?, hquote, Change.ofSign_eq_none hbracket, Change.leaves?]

/-- A sign that is no quote, no backslash and no line break stands for itself in a literal. -/
theorem step?_literal {c : CodePoint} (h : c ≠ backslash ∧ c ≠ newline ∧ c ≠ carriageReturn)
    (hquote : c ≠ apostrophe) (due : List CodePoint) :
    Position.step? ⟨.literal, due⟩ c = some ⟨.literal, due⟩ := by
  simp [Position.step?, Mode.step?, h, hquote, Change.leaves?]

/-- A label that is unbroken stays in the literal it is escaped for: each quote in it comes behind
a backslash, and no other backslash is there to take that one away. -/
theorem leads_escape {label : Text} (h : label.IsUnbroken) (due : List CodePoint) :
    Leads label.escape ⟨.literal, due⟩ ⟨.literal, due⟩ := by
  induction label with
  | nil => exact .nil _
  | cons c label ih =>
    rw [Text.IsUnbroken, List.forall_mem_cons] at h
    obtain ⟨hc, hlabel⟩ := h
    rw [Text.escape_cons]
    split
    · have hbackslash : Position.step? ⟨.literal, due⟩ backslash = some ⟨.escaped, due⟩ := rfl
      have htaken : Position.step? ⟨.escaped, due⟩ c = some ⟨.literal, due⟩ := rfl
      exact .cons hbackslash (.cons htaken (ih hlabel))
    · rename_i hquote
      exact .cons (step?_literal hc (fun hc => hquote (.inl hc)) due) (ih hlabel)

/-- The closing brackets that are due behind a line of code, when a literal does not run past it. -/
def dueAfter? (due : List CodePoint) (line : Text) : Option (List CodePoint) :=
  match line.foldlM Position.step? ⟨.code, due⟩ with
  | some ⟨.code, due'⟩ => some due'
  | _ => none

/-- Whether lines of code, none of which ends in a literal, get from the ones to the other closing
brackets that are due. -/
abbrev LinesLead (lines : List Text) (due due' : List CodePoint) : Prop :=
  Scans dueAfter? lines due due'

theorem dueAfter?_eq_some {line : Text} {due due' : List CodePoint} :
    dueAfter? due line = some due' ↔ Leads line ⟨.code, due⟩ ⟨.code, due'⟩ := by
  rw [dueAfter?, Leads, Scans]
  cases line.foldlM Position.step? ⟨.code, due⟩ with
  | none => simp
  | some p =>
    obtain ⟨mode, due''⟩ := p
    cases mode <;> simp

theorem linesLead_cons {line : Text} {lines : List Text} {due due' due'' : List CodePoint}
    (h : Leads line ⟨.code, due⟩ ⟨.code, due'⟩) (h' : LinesLead lines due' due'') :
    LinesLead (line :: lines) due due'' :=
  .cons (dueAfter?_eq_some.mpr h) h'

theorem linesLead_of_balanced {lines : List Text} (h : ∀ line ∈ lines, Balanced line)
    (due : List CodePoint) : LinesLead lines due due :=
  Scans.of_forall fun line hline => dueAfter?_eq_some.mpr ((h line hline).leads due)

/-- The lines lead on as the text does that they make. -/
theorem leads_ofLines {lines : List Text} {due due' : List CodePoint}
    (h : LinesLead lines due due') :
    Leads (Text.ofLines lines) ⟨.code, due⟩ ⟨.code, due'⟩ := by
  induction lines generalizing due with
  | nil =>
    cases h
    exact .nil _
  | cons line lines ih =>
    obtain ⟨next, hline, hrest⟩ := Scans.cons_iff.mp h
    have hfirst := dueAfter?_eq_some.mp hline
    cases lines with
    | nil =>
      cases hrest
      exact hfirst
    | cons line' rest =>
      have hbreak : Leads [newline] ⟨.code, next⟩ ⟨.code, next⟩ := rfl
      exact (hfirst.append hbreak).append (ih hrest)

end Script

namespace DataShape

theorem balanced (kind : Option Kind) :
    Script.Balanced (ofKind? kind).type ∧ Script.Balanced (ofKind? kind).initial := by
  cases kind with
  | none => decide
  | some kind => cases kind <;> decide

end DataShape

namespace Script

variable {item : Item} {items : List Item}

theorem balanced_name (h : item.field.IsBare) : Balanced (lit "  " ++ item.field ++ lit ": ") := by
  have hblanks : Balanced (lit "  ") := by decide
  have hcolon : Balanced (lit ": ") := by decide
  exact (hblanks.append (balanced_of_isBare h)).append hcolon

theorem balanced_interfaceMember (h : item.field.IsBare) :
    Balanced (interfaceMember item.member) := by
  have hend : Balanced (lit ";") := by decide
  exact ((balanced_name h).append (DataShape.balanced item.kind?).1).append hend

theorem balanced_dataEntry (h : item.field.IsBare) : Balanced (dataEntry item.member) :=
  (balanced_name h).append (DataShape.balanced item.kind?).2

theorem leads_checkEvent (kind : Option Kind) (due : List CodePoint) :
    Leads (checkEvent kind) ⟨.literal, due⟩ ⟨.literal, due⟩ := by
  have hevent : Leads (checkEvent kind) ⟨.literal, []⟩ ⟨.literal, []⟩ := by
    rw [checkEvent]
    split <;> decide
  exact hevent.above due

/-- The middle line of a rule opens and closes two literals, whatever the label holds. -/
theorem leads_condition (h : item.label.IsUnbroken) (due : List CodePoint) :
    Leads (lit "    \x7b required: true, message: '" ++ ruleMessage item.rule ++
      lit "', trigger: '" ++ item.rule.trigger ++ lit "' \x7d") ⟨.code, due⟩ ⟨.code, due⟩ := by
  have hopening : Leads (lit "    \x7b required: true, message: '") ⟨.code, []⟩
      ⟨.literal, [.scalar '\x7d']⟩ := by decide
  have hprompt : Leads (lit "please enter ") ⟨.literal, []⟩ ⟨.literal, []⟩ := by decide
  have hmiddle : Leads (lit "', trigger: '") ⟨.literal, []⟩ ⟨.literal, []⟩ := by decide
  have hclosing : Leads (lit "' \x7d") ⟨.literal, [.scalar '\x7d']⟩ ⟨.code, []⟩ := by decide
  have hmessage : Leads (ruleMessage item.rule) ⟨.literal, .scalar '\x7d' :: due⟩
      ⟨.literal, .scalar '\x7d' :: due⟩ :=
    (hprompt.above _).append (leads_escape h _)
  have hfront := ((hopening.above due).append hmessage).append (hmiddle.above _)
  exact (hfront.append (leads_checkEvent item.kind? _)).append (hclosing.above due)

theorem balanced_ruleEntry (hfield : item.field.IsBare) (hlabel : item.label.IsUnbroken) :
    Balanced (ruleEntry item.rule) := by
  have hblanks : Balanced (lit "  ") := by decide
  have hopening : Leads (lit ": [") ⟨.code, []⟩ ⟨.code, [.scalar ']']⟩ := by decide
  have hclosing : Leads (lit "  ]") ⟨.code, [.scalar ']']⟩ ⟨.code, []⟩ := by decide
  have hkey : Leads (lit "  " ++ item.field ++ lit ": [") ⟨.code, []⟩ ⟨.code, [.scalar ']']⟩ :=
    (hblanks.append (balanced_of_isBare hfield)).leads [] |>.append hopening
  apply leads_ofLines
  exact linesLead_cons hkey
    (linesLead_cons (leads_condition hlabel _) (linesLead_cons hclosing (.nil [])))

/-- The literals and the brackets of a script are closed. When no field holds an apostrophe or a
bracket and no label of a required item a backslash or a line break, a scan of the script gets to
its end, outside any literal and with no closing bracket due, whatever else the labels hold. -/
theorem scan?_build (hfields : ∀ item ∈ items, item.field.IsBare)
    (hlabels : ∀ item ∈ items, item.required → item.label.IsUnbroken) :
    scan? (build items) = some ⟨.code, []⟩ := by
  have hmembers : ∀ line ∈ (items.map Item.member).map interfaceMember, Balanced line := by
    simp only [List.map_map, List.forall_mem_map]
    exact fun item hitem => balanced_interfaceMember (hfields item hitem)
  have hseparator : Balanced (lit "," ++ [newline]) := by decide
  have hdata : Balanced (entries ((items.map Item.member).map dataEntry)) := by
    apply Balanced.joinWith hseparator
    simp only [List.map_map, List.forall_mem_map]
    exact fun item hitem => balanced_dataEntry (hfields item hitem)
  have hrules : Balanced (entries (((items.filter (·.required)).map Item.rule).map ruleEntry)) := by
    apply Balanced.joinWith hseparator
    simp only [List.map_map, List.forall_mem_map]
    intro item hitem
    obtain ⟨hitem, hrequired⟩ := List.mem_filter.mp hitem
    exact balanced_ruleEntry (hfields item hitem) (hlabels item hitem hrequired)
  -- The fixed lines in front of the members, between the sections and behind the rules.
  have hstart : LinesLead (header ++ [interfaceOpening]) [] [.scalar '\x7d'] := by decide +kernel
  have hfirst : LinesLead [lit "\x7d", [], lit "// Form data", dataOpening] [.scalar '\x7d']
      [.scalar '\x7d', .scalar ')'] := by decide +kernel
  have hsecond : LinesLead [closing, [], lit "// Form validation rules", rulesOpening]
      [.scalar '\x7d', .scalar ')'] [.scalar '\x7d', .scalar ')'] := by decide +kernel
  have hend : LinesLead (closing :: [] :: submission) [.scalar '\x7d', .scalar ')'] [] := by
    decide +kernel
  have hlines : lines (items.map Item.member) ((items.filter (·.required)).map Item.rule) =
      (header ++ [interfaceOpening]) ++ (items.map Item.member).map interfaceMember ++
      [lit "\x7d", [], lit "// Form data", dataOpening] ++
      [entries ((items.map Item.member).map dataEntry)] ++
      [closing, [], lit "// Form validation rules", rulesOpening] ++
      [entries (((items.filter (·.required)).map Item.rule).map ruleEntry)] ++
      (closing :: [] :: submission) := by
    simp [lines]
  have hopen := (hstart.append (linesLead_of_balanced hmembers _)).append hfirst
  have hmiddle := (hopen.append (linesLead_cons (hdata.leads _) (.nil _))).append hsecond
  have hall := (hmiddle.append (linesLead_cons (hrules.leads _) (.nil _))).append hend
  rw [← hlines] at hall
  exact leads_ofLines hall

/-- A label made of quotes, brackets and what ends a script's literal data. -/
theorem scan?_build_brackets :
    scan? (build [⟨⟨1, lit "it's \"[(\x7b' \x7d);", lit "user_1$", none, true, false⟩, .select []⟩,
      ⟨⟨2, lit "\\", lit "b", none, false, false⟩, .switch⟩]) = some ⟨.code, []⟩ :=
  scan?_build (by decide) (by decide)

end Script

end Formwright
