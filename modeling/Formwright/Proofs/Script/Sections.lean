import Formwright.Component.Script
import Formwright.Proofs.Text.Escape
import Formwright.Proofs.Text.Framing
import Formwright.Proofs.Text.Lines
import Formwright.Proofs.Text.Parts

/-!
Reading a script line by line: the members of the interface, the entries of the
initial data and the keys of the rules. Every line inside one of these sections
is empty or starts with a blank, and no line around them does both open or close
a section and start so.
-/

namespace Formwright

open Text (between? cutLast? inside? toLines)

namespace Script

/-- The name on a line of a section and what stands behind it, told apart at the last colon. -/
def memberIn? (line : Text) : Option (Text × Text) :=
  (cutLast? (.scalar ':') line).bind fun (front, back) =>
    (front.dropPrefix? (lit "  ")).map fun name => (name, back.drop 1)

/-- The name and the type on a line of the interface. -/
def typedMember? (line : Text) : Option (Text × Text) :=
  (memberIn? line).bind fun (name, type) => (type.dropSuffix? (lit ";")).map fun t => (name, t)

/-- The key and the value on a line of the initial data, which a comma may end. -/
def initialMember? (line : Text) : Option (Text × Text) :=
  (memberIn? line).map fun (key, value) => (key, (value.dropSuffix? (lit ",")).getD value)

/-- The names and types of the interface of a script. -/
def interfaceMembers? (script : Text) : Option (List (Text × Text)) :=
  (between? (lit "interface FormData \x7b") (lit "\x7d") (toLines script)).map
    (List.filterMap typedMember?)

/-- The keys and values of the initial data of a script. -/
def initialMembers? (script : Text) : Option (List (Text × Text)) :=
  (between? (lit "const formData = reactive<FormData>(\x7b") (lit "\x7d);") (toLines script)).map
    (List.filterMap initialMember?)

/-- The keys of the rules of a script. -/
def ruleKeys? (script : Text) : Option (List Text) :=
  (between? (lit "const rules = reactive<Record<string, any[]>>(\x7b") (lit "\x7d);")
    (toLines script)).map (List.filterMap (inside? (lit "  ") (lit ": [")))

/-- The lines of entries, with a comma at the end of every entry but the last. -/
def entryLines : List Text → List Text
  | [] => [[]]
  | [entry] => toLines entry
  | entry :: next :: rest => toLines (entry ++ lit ",") ++ entryLines (next :: rest)

theorem toLines_entries (written : List Text) : toLines (entries written) = entryLines written := by
  induction written with
  | nil => rfl
  | cons entry written ih =>
    cases written with
    | nil => rfl
    | cons next rest =>
      have hjoin : entries (entry :: next :: rest) =
          (entry ++ lit ",") ++ newline :: entries (next :: rest) := by
        simp [entries, Text.joinWith]
      rw [hjoin, Text.toLines_append_newline, ih, entryLines]

/-- What is read off the lines of entries, where an entry gives the same with and without a comma
behind it. -/
theorem filterMap_entryLines {α β : Type} {read : Text → Option β} {write : α → Text}
    {value : α → β} {written : List α} (hempty : read [] = none)
    (hplain : ∀ a ∈ written, (toLines (write a)).filterMap read = [value a])
    (hcomma : ∀ a ∈ written, (toLines (write a ++ lit ",")).filterMap read = [value a]) :
    (entryLines (written.map write)).filterMap read = written.map value := by
  induction written with
  | nil => simp [entryLines, hempty]
  | cons a written ih =>
    rw [List.forall_mem_cons] at hplain hcomma
    cases written with
    | nil => simpa [entryLines] using hplain.1
    | cons b rest =>
      have hrest := ih hplain.2 hcomma.2
      simp only [List.map_cons] at hrest
      simp only [List.map_cons, entryLines, List.filterMap_append, hcomma.1, hrest,
        List.singleton_append]

/-- Whether a line is empty or starts with a blank. -/
def IsInner (line : Text) : Prop :=
  line = [] ∨ line.head? = some (.scalar ' ')

instance (line : Text) : Decidable (IsInner line) :=
  inferInstanceAs (Decidable (_ ∨ _))

theorem isInner_entryLines {written : List Text}
    (hplain : ∀ w ∈ written, ∀ line ∈ toLines w, IsInner line)
    (hcomma : ∀ w ∈ written, ∀ line ∈ toLines (w ++ lit ","), IsInner line) :
    ∀ line ∈ entryLines written, IsInner line := by
  induction written with
  | nil => simp [entryLines, IsInner]
  | cons w written ih =>
    rw [List.forall_mem_cons] at hplain hcomma
    cases written with
    | nil => exact hplain.1
    | cons next rest =>
      intro line hline
      rcases List.mem_append.mp hline with hline | hline
      · exact hcomma.1 line hline
      · exact ih hplain.2 hcomma.2 line hline

theorem memberIn?_append {value : Text} (hvalue : .scalar ':' ∉ value) (name : Text) :
    memberIn? (lit "  " ++ name ++ lit ": " ++ value) = some (name, value) := by
  have hline : lit "  " ++ name ++ lit ": " ++ value =
      (lit "  " ++ name) ++ .scalar ':' :: (lit " " ++ value) := by
    simp [lit]
  have hback : .scalar ':' ∉ lit " " ++ value := by
    intro hmem
    rcases List.mem_append.mp hmem with hmem | hmem
    · exact absurd hmem (by decide)
    · exact hvalue hmem
  have hname : (lit "  " ++ name).dropPrefix? (lit "  ") = some name :=
    Text.dropPrefix?_append_self (lit "  ") name
  rw [memberIn?, hline, Text.cutLast?_append _ hback]
  simp only [Option.bind_some, hname, Option.map_some]
  rfl

end Script

namespace DataShape

/-- Nothing in the shape of a field looks like the end of a name, of a line or of an entry. -/
theorem clear (kind : Option Kind) :
    (.scalar ':' ∉ (ofKind? kind).type ∧ newline ∉ (ofKind? kind).type) ∧
      .scalar ':' ∉ (ofKind? kind).initial ∧ newline ∉ (ofKind? kind).initial ∧
      (ofKind? kind).initial.dropSuffix? (lit ",") = none := by
  cases kind with
  | none => decide
  | some kind => cases kind <;> decide

end DataShape

namespace Script

theorem typedMember?_interfaceMember (item : Item) :
    typedMember? (interfaceMember item.member) =
      some (item.field, (DataShape.ofKind? item.kind?).type) := by
  have hshape := (DataShape.clear item.kind?).1.1
  have hvalue : .scalar ':' ∉ (DataShape.ofKind? item.kind?).type ++ lit ";" := by
    intro hmem
    rcases List.mem_append.mp hmem with hmem | hmem
    · exact hshape hmem
    · exact absurd hmem (by decide)
  have hline : interfaceMember item.member = lit "  " ++ item.field ++ lit ": " ++
      ((DataShape.ofKind? item.kind?).type ++ lit ";") := by
    simp [interfaceMember, Item.member]
  rw [typedMember?, hline, memberIn?_append hvalue]
  simp only [Option.bind_some, Text.dropSuffix?_append_self, Option.map_some]

theorem initialMember?_dataEntry (item : Item) :
    initialMember? (dataEntry item.member) =
        some (item.field, (DataShape.ofKind? item.kind?).initial) ∧
      initialMember? (dataEntry item.member ++ lit ",") =
        some (item.field, (DataShape.ofKind? item.kind?).initial) := by
  obtain ⟨-, hshape, -, hsuffix⟩ := DataShape.clear item.kind?
  have hline : dataEntry item.member = lit "  " ++ item.field ++ lit ": " ++
      (DataShape.ofKind? item.kind?).initial := rfl
  have hcomma : .scalar ':' ∉ (DataShape.ofKind? item.kind?).initial ++ lit "," := by
    intro hmem
    rcases List.mem_append.mp hmem with hmem | hmem
    · exact hshape hmem
    · exact absurd hmem (by decide)
  constructor
  · rw [initialMember?, hline, memberIn?_append hshape]
    simp only [Option.map_some, hsuffix, Option.getD_none]
  · rw [initialMember?, hline, List.append_assoc, memberIn?_append hcomma]
    simp only [Option.map_some, Text.dropSuffix?_append_self, Option.getD_some]

theorem newline_not_mem_interfaceMember {item : Item} (h : newline ∉ item.field) :
    newline ∉ interfaceMember item.member := by
  have htype := (DataShape.clear item.kind?).1.2
  simp only [interfaceMember, Item.member, List.mem_append, not_or]
  exact ⟨⟨⟨⟨by decide, h⟩, by decide⟩, htype⟩, by decide⟩

theorem newline_not_mem_dataEntry {item : Item} (h : newline ∉ item.field) :
    newline ∉ dataEntry item.member ∧ newline ∉ dataEntry item.member ++ lit "," := by
  obtain ⟨-, -, hinitial, -⟩ := DataShape.clear item.kind?
  have hentry : newline ∉ dataEntry item.member := by
    simp only [dataEntry, Item.member, List.mem_append, not_or]
    exact ⟨⟨⟨by decide, h⟩, by decide⟩, hinitial⟩
  refine ⟨hentry, ?_⟩
  rw [List.mem_append, not_or]
  exact ⟨hentry, by decide⟩

/-- The line between those that open and close a rule. -/
def conditionLine (r : Rule) : Text :=
  lit "    \x7b required: true, message: '" ++ ruleMessage r ++ lit "', trigger: '" ++ r.trigger ++
    lit "' \x7d"

theorem inside?_conditionLine (r : Rule) :
    inside? (lit "  ") (lit ": [") (conditionLine r) = none := by
  have hending : lit "' \x7d" ≠ lit ": [" := by decide
  exact Text.inside?_append_eq_none _ rfl hending

/-- The lines of a rule, without and with a comma behind it. -/
theorem toLines_ruleEntry {item : Item} (hfield : newline ∉ item.field)
    (hlabel : newline ∉ item.label) :
    toLines (ruleEntry item.rule) =
        [lit "  " ++ item.field ++ lit ": [", conditionLine item.rule, lit "  ]"] ∧
      toLines (ruleEntry item.rule ++ lit ",") =
        [lit "  " ++ item.field ++ lit ": [", conditionLine item.rule, lit "  ],"] := by
  have hevent : newline ∉ checkEvent item.kind? := by
    rw [checkEvent]
    split <;> decide
  have hescaped : newline ∉ item.label.escape := Text.newline_not_mem_escape hlabel
  have hkey : newline ∉ lit "  " ++ item.field ++ lit ": [" := by
    simp only [List.mem_append, not_or]
    exact ⟨⟨by decide, hfield⟩, by decide⟩
  have hcondition : newline ∉ conditionLine item.rule := by
    simp only [conditionLine, ruleMessage, Item.rule, List.mem_append, not_or]
    exact ⟨⟨⟨⟨by decide, by decide, hescaped⟩, by decide⟩, hevent⟩, by decide⟩
  constructor
  · apply Text.toLines_ofLines (by simp)
    simp only [List.forall_mem_cons]
    exact ⟨hkey, hcondition, by decide, by simp⟩
  · have hcomma : ruleEntry item.rule ++ lit "," = Text.ofLines
        [lit "  " ++ item.field ++ lit ": [", conditionLine item.rule, lit "  ],"] := by
      simp [ruleEntry, conditionLine, Text.ofLines, Text.joinWith, Item.rule, lit]
    rw [hcomma]
    apply Text.toLines_ofLines (by simp)
    simp only [List.forall_mem_cons]
    exact ⟨hkey, hcondition, by decide, by simp⟩

theorem not_mem_of_isInner {mark : Text} {lines : List Text} (hmark : ¬ IsInner mark)
    (h : ∀ line ∈ lines, IsInner line) : mark ∉ lines :=
  fun hmem => hmark (h mark hmem)

section

variable {items : List Item}

def memberLines (items : List Item) : List Text :=
  items.map fun item => interfaceMember item.member

def dataLines (items : List Item) : List Text :=
  entryLines (items.map fun item => dataEntry item.member)

def ruleLines (items : List Item) : List Text :=
  entryLines ((items.filter (·.required)).map fun item => ruleEntry item.rule)

theorem isInner_memberLines : ∀ line ∈ memberLines items, IsInner line := by
  intro line hline
  obtain ⟨item, -, rfl⟩ := List.mem_map.mp hline
  exact .inr rfl

theorem isInner_dataLines (h : ∀ item ∈ items, newline ∉ item.field) :
    ∀ line ∈ dataLines items, IsInner line := by
  apply isInner_entryLines
  all_goals
    intro written hwritten line hline
    obtain ⟨item, hitem, rfl⟩ := List.mem_map.mp hwritten
    obtain ⟨hplain, hcomma⟩ := newline_not_mem_dataEntry (h item hitem)
  · rw [Text.toLines_of_not_mem hplain, List.mem_singleton] at hline
    subst hline
    exact .inr rfl
  · rw [Text.toLines_of_not_mem hcomma, List.mem_singleton] at hline
    subst hline
    exact .inr rfl

theorem isInner_ruleLines (h : ∀ item ∈ items, newline ∉ item.field ∧ newline ∉ item.label) :
    ∀ line ∈ ruleLines items, IsInner line := by
  apply isInner_entryLines
  all_goals
    intro written hwritten line hline
    obtain ⟨item, hitem, rfl⟩ := List.mem_map.mp hwritten
    obtain ⟨hfield, hlabel⟩ := h item (List.mem_of_mem_filter hitem)
    obtain ⟨hplain, hcomma⟩ := toLines_ruleEntry hfield hlabel
  · rw [hplain] at hline
    simp only [List.mem_cons, List.not_mem_nil, or_false] at hline
    rcases hline with rfl | rfl | rfl <;> exact .inr rfl
  · rw [hcomma] at hline
    simp only [List.mem_cons, List.not_mem_nil, or_false] at hline
    rcases hline with rfl | rfl | rfl <;> exact .inr rfl

/-- The script cut into its lines. -/
theorem toLines_build (h : ∀ item ∈ items, newline ∉ item.field ∧ newline ∉ item.label) :
    toLines (build items) =
      header ++ interfaceOpening :: memberLines items ++ lit "\x7d" :: [] :: lit "// Form data" ::
        dataOpening :: dataLines items ++ closing :: [] :: lit "// Form validation rules" ::
        rulesOpening :: ruleLines items ++ closing :: [] :: submission := by
  have hfixed : ∀ line ∈ header ++ submission, newline ∉ line := by decide +kernel
  have hmarks : ∀ line ∈ [interfaceOpening, lit "\x7d", [], lit "// Form data", dataOpening, closing,
      lit "// Form validation rules", rulesOpening], toLines line = [line] := by
    intro line hline
    apply Text.toLines_of_not_mem
    revert line
    decide +kernel
  rw [List.forall_mem_append] at hfixed
  simp only [List.forall_mem_cons] at hmarks
  have hmembers : (memberLines items).flatMap toLines = memberLines items := by
    apply Text.flatMap_toLines
    intro line hline
    obtain ⟨item, hitem, rfl⟩ := List.mem_map.mp hline
    exact newline_not_mem_interfaceMember (h item hitem).1
  have hlines : lines (items.map Item.member) ((items.filter (·.required)).map Item.rule) =
      header ++ interfaceOpening :: memberLines items ++
        [lit "\x7d", [], lit "// Form data", dataOpening,
          entries (items.map fun item => dataEntry item.member), closing, [],
          lit "// Form validation rules", rulesOpening,
          entries ((items.filter (·.required)).map fun item => ruleEntry item.rule), closing, []] ++
        submission := by
    simp only [lines, memberLines, List.map_map, Function.comp_def]
  rw [build, ofMembers, Text.toLines_ofLines_flatMap (by simp [lines]), hlines]
  simp only [List.flatMap_append, List.flatMap_cons, List.flatMap_nil, hmembers, toLines_entries,
    Text.flatMap_toLines hfixed.1, Text.flatMap_toLines hfixed.2]
  simp only [hmarks, List.append_assoc, List.cons_append, List.nil_append,
    dataLines, ruleLines]

/-- The interface lists the fields in order, each with the type of its kind. -/
theorem interfaceMembers?_build
    (h : ∀ item ∈ items, newline ∉ item.field ∧ newline ∉ item.label) :
    interfaceMembers? (build items) =
      some (items.map fun item => (item.field, (DataShape.ofKind? item.kind?).type)) := by
  have hopening : interfaceOpening ∉ header := by decide +kernel
  have hclosing : lit "\x7d" ∉ memberLines items :=
    not_mem_of_isInner (by decide) isInner_memberLines
  have hread : (memberLines items).filterMap typedMember? =
      items.map fun item => (item.field, (DataShape.ofKind? item.kind?).type) := by
    rw [memberLines, List.filterMap_map, ← List.filterMap_eq_map]
    congr 1
    funext item
    exact typedMember?_interfaceMember item
  have hsection := Text.between?_append hopening hclosing ([] :: lit "// Form data" ::
    dataOpening :: dataLines items ++ closing :: [] :: lit "// Form validation rules" ::
    rulesOpening :: ruleLines items ++ closing :: [] :: submission)
  rw [interfaceMembers?, toLines_build h, ← hread]
  simp only [List.append_assoc, List.cons_append] at hsection ⊢
  exact congrArg (Option.map (List.filterMap typedMember?)) hsection

/-- The initial data has the fields as keys in order, each with the value its kind starts with. -/
theorem initialMembers?_build
    (h : ∀ item ∈ items, newline ∉ item.field ∧ newline ∉ item.label) :
    initialMembers? (build items) =
      some (items.map fun item => (item.field, (DataShape.ofKind? item.kind?).initial)) := by
  have hfield : ∀ item ∈ items, newline ∉ item.field := fun item hitem => (h item hitem).1
  have hopening : dataOpening ∉ header ++ interfaceOpening :: memberLines items ++
      [lit "\x7d", [], lit "// Form data"] := by
    have hfixed : dataOpening ∉ header ++ [interfaceOpening, lit "\x7d", [], lit "// Form data"] := by
      decide +kernel
    have hmembers : dataOpening ∉ memberLines items :=
      not_mem_of_isInner (by decide) isInner_memberLines
    simp only [List.mem_append, List.mem_cons, not_or] at hfixed ⊢
    exact ⟨⟨hfixed.1, hfixed.2.1, hmembers⟩, hfixed.2.2⟩
  have hclosing : closing ∉ dataLines items :=
    not_mem_of_isInner (by decide) (isInner_dataLines hfield)
  have hread : (dataLines items).filterMap initialMember? =
      items.map fun item => (item.field, (DataShape.ofKind? item.kind?).initial) := by
    apply filterMap_entryLines rfl
    all_goals
      intro item hitem
      obtain ⟨hplain, hcomma⟩ := newline_not_mem_dataEntry (hfield item hitem)
      obtain ⟨hvalue, hvalue'⟩ := initialMember?_dataEntry item
    · rw [Text.toLines_of_not_mem hplain, List.filterMap_cons, hvalue, List.filterMap_nil]
    · rw [Text.toLines_of_not_mem hcomma, List.filterMap_cons, hvalue', List.filterMap_nil]
  have hsection := Text.between?_append hopening hclosing ([] ::
    lit "// Form validation rules" :: rulesOpening :: ruleLines items ++ closing :: [] :: submission)
  rw [initialMembers?, toLines_build h, ← hread]
  simp only [List.append_assoc, List.cons_append, List.nil_append] at hsection ⊢
  exact congrArg (Option.map (List.filterMap initialMember?)) hsection

/-- The section of the rules is found in the script. -/
theorem between?_rules (h : ∀ item ∈ items, newline ∉ item.field ∧ newline ∉ item.label) :
    between? rulesOpening closing (toLines (build items)) = some (ruleLines items) := by
  have hfield : ∀ item ∈ items, newline ∉ item.field := fun item hitem => (h item hitem).1
  have hopening : rulesOpening ∉ header ++ interfaceOpening :: memberLines items ++
      lit "\x7d" :: [] :: lit "// Form data" :: dataOpening :: dataLines items ++
      [closing, [], lit "// Form validation rules"] := by
    have hfixed : rulesOpening ∉ header ++ [interfaceOpening, lit "\x7d", [], lit "// Form data",
        dataOpening, closing, [], lit "// Form validation rules"] := by
      decide +kernel
    have hmembers : rulesOpening ∉ memberLines items :=
      not_mem_of_isInner (by decide) isInner_memberLines
    have hdata : rulesOpening ∉ dataLines items :=
      not_mem_of_isInner (by decide) (isInner_dataLines hfield)
    simp only [List.mem_append, List.mem_cons, List.not_mem_nil, or_false, not_or] at hfixed ⊢
    exact ⟨⟨⟨hfixed.1, hfixed.2.1, hmembers⟩, hfixed.2.2.1, hfixed.2.2.2.1, hfixed.2.2.2.2.1,
      hfixed.2.2.2.2.2.1, hdata⟩, hfixed.2.2.2.2.2.2⟩
  have hclosing : closing ∉ ruleLines items :=
    not_mem_of_isInner (by decide) (isInner_ruleLines h)
  have hsection := Text.between?_append hopening hclosing ([] :: submission)
  rw [toLines_build h]
  simp only [List.append_assoc, List.cons_append, List.nil_append] at hsection ⊢
  exact hsection

/-- What is read off the rules, where the three lines of a rule give one thing, with and without a
comma behind them. -/
theorem filterMap_ruleLines {β : Type} {read : Text → Option β} {value : Item → β}
    (h : ∀ item ∈ items, newline ∉ item.field ∧ newline ∉ item.label) (hempty : read [] = none)
    (hread : ∀ item, ∀ ending ∈ [lit "  ]", lit "  ],"],
      [lit "  " ++ item.field ++ lit ": [", conditionLine item.rule, ending].filterMap read =
        [value item]) :
    (ruleLines items).filterMap read = (items.filter (·.required)).map value := by
  apply filterMap_entryLines hempty
  all_goals
    intro item hitem
    obtain ⟨hfield, hlabel⟩ := h item (List.mem_of_mem_filter hitem)
    obtain ⟨hplain, hcomma⟩ := toLines_ruleEntry hfield hlabel
  · rw [hplain]
    exact hread item _ (by simp)
  · rw [hcomma]
    exact hread item _ (by simp)

/-- The rules have the required fields as keys, in order. -/
theorem ruleKeys?_build (h : ∀ item ∈ items, newline ∉ item.field ∧ newline ∉ item.label) :
    ruleKeys? (build items) = some ((items.filter (·.required)).map (·.field)) := by
  have hread : (ruleLines items).filterMap (inside? (lit "  ") (lit ": [")) =
      (items.filter (·.required)).map (·.field) := by
    apply filterMap_ruleLines h rfl
    intro item ending hending
    have hkey : inside? (lit "  ") (lit ": [") (lit "  " ++ item.field ++ lit ": [") =
      some item.field := Text.inside?_append _ _ _
    have hends : ∀ ending ∈ [lit "  ]", lit "  ],"],
      inside? (lit "  ") (lit ": [") ending = none := by decide
    simp only [List.filterMap_cons, hkey, inside?_conditionLine, hends ending hending,
      List.filterMap_nil]
  rw [← hread]
  exact congrArg (Option.map (List.filterMap (inside? (lit "  ") (lit ": [")))) (between?_rules h)

end

end Script

end Formwright
