import Formwright.Proofs.Script.Sections

/-!
What a script tells of its items. The names, types and initial values of the members
and, for each rule, its key, its label and its event can be read off the text, so two
scripts are the same only when these are. Nothing else gets into a script: not the id,
the placeholder, the choices or the bounds, nor the label of a field without a rule.
-/

namespace Formwright

open Text (apostrophe between? cutLast? inside? toLines)

namespace Item

/-- What the rule of a required item is made from: its key, its label and its event. -/
def ruleSource (item : Item) : Text × Text × Text :=
  (item.field, item.label, checkEvent item.kind?)

/-- Whether two items differ at most in what no script shows: in the id, the placeholder, the flag,
the choices and the bounds, for an unknown kind in the type name, and in the label where there is
no rule. -/
structure DiffersUnwritten (x y : Item) : Prop where
  field : x.field = y.field
  kind : x.kind? = y.kind?
  required : x.required = y.required
  label : x.required = true → x.label = y.label

end Item

namespace Script

/-- The escaped label and the event on the middle line of a rule. The event is what stands behind
the last apostrophe but the closing one, as a label may hold anything. -/
def condition? (line : Text) : Option (Text × Text) :=
  (inside? (lit "    \x7b required: true, message: 'please enter ") (lit "' \x7d") line).bind
    fun inner => (cutLast? apostrophe inner).bind fun (front, event) =>
      (front.dropSuffix? (lit "', trigger: ")).map fun label => (label, event)

/-- The escaped labels and the events of the rules of a script. -/
def ruleConditions? (script : Text) : Option (List (Text × Text)) :=
  (between? rulesOpening closing (toLines script)).map (List.filterMap condition?)

theorem apostrophe_not_mem_checkEvent (kind : Option Kind) : apostrophe ∉ checkEvent kind := by
  rw [checkEvent]
  split <;> decide

theorem condition?_conditionLine (item : Item) :
    condition? (conditionLine item.rule) = some (item.label.escape, checkEvent item.kind?) := by
  have hline : conditionLine item.rule =
      lit "    \x7b required: true, message: 'please enter " ++
        ((item.label.escape ++ lit "', trigger: ") ++ apostrophe :: checkEvent item.kind?) ++
        lit "' \x7d" := by
    simp [conditionLine, ruleMessage, Item.rule, lit, apostrophe]
  rw [condition?, hline, Text.inside?_append, Option.bind_some,
    Text.cutLast?_append _ (apostrophe_not_mem_checkEvent item.kind?)]
  simp only [Option.bind_some, Text.dropSuffix?_append_self, Option.map_some]

theorem condition?_key (field : Text) : condition? (lit "  " ++ field ++ lit ": [") = none := by
  have hending : inside? (lit "    \x7b required: true, message: 'please enter ") (lit "' \x7d")
      (lit "  " ++ field ++ lit ": [") = none :=
    Text.inside?_append_eq_none _ rfl (by decide)
  rw [condition?, hending, Option.bind_none]

section

variable {items xs ys : List Item}

/-- The rules say the labels and the events of the required items, in order. -/
theorem ruleConditions?_build (h : ∀ item ∈ items, newline ∉ item.field ∧ newline ∉ item.label) :
    ruleConditions? (build items) =
      some ((items.filter (·.required)).map fun item =>
        (item.label.escape, checkEvent item.kind?)) := by
  have hread : (ruleLines items).filterMap condition? =
      (items.filter (·.required)).map fun item => (item.label.escape, checkEvent item.kind?) := by
    apply filterMap_ruleLines h rfl
    intro item ending hending
    have hends : ∀ ending ∈ [lit "  ]", lit "  ],"], condition? ending = none := by decide
    simp only [List.filterMap_cons, condition?_key, condition?_conditionLine, hends ending hending,
      List.filterMap_nil]
  rw [ruleConditions?, between?_rules h, Option.map_some, hread]

/-- The members of a script can be told from its text. -/
theorem members_eq_of_build (hx : ∀ x ∈ xs, newline ∉ x.field ∧ newline ∉ x.label)
    (hy : ∀ y ∈ ys, newline ∉ y.field ∧ newline ∉ y.label) (h : build xs = build ys) :
    xs.map Item.member = ys.map Item.member := by
  have htyped : xs.map (fun x => (x.field, (DataShape.ofKind? x.kind?).type)) =
      ys.map fun y => (y.field, (DataShape.ofKind? y.kind?).type) := by
    rw [← Option.some_inj, ← interfaceMembers?_build hx, ← interfaceMembers?_build hy, h]
  have hinitial : xs.map (fun x => (x.field, (DataShape.ofKind? x.kind?).initial)) =
      ys.map fun y => (y.field, (DataShape.ofKind? y.kind?).initial) := by
    rw [← Option.some_inj, ← initialMembers?_build hx, ← initialMembers?_build hy, h]
  -- A member is made from what the interface and the initial data say at its place.
  have hmember (items : List Item) : items.map Item.member =
      ((items.map fun i => (i.field, (DataShape.ofKind? i.kind?).type)).zip
        (items.map fun i => (i.field, (DataShape.ofKind? i.kind?).initial))).map
          fun p => ⟨p.1.1, p.1.2, p.2.2⟩ := by
    rw [List.zip_map', List.map_map]
    rfl
  rw [hmember xs, hmember ys, htyped, hinitial]

/-- What the rules of a script are made from can be told from its text, since escaping loses
nothing. -/
theorem ruleSources_eq_of_build (hx : ∀ x ∈ xs, newline ∉ x.field ∧ newline ∉ x.label)
    (hy : ∀ y ∈ ys, newline ∉ y.field ∧ newline ∉ y.label) (h : build xs = build ys) :
    (xs.filter (·.required)).map Item.ruleSource =
      (ys.filter (·.required)).map Item.ruleSource := by
  have hkeys : (xs.filter (·.required)).map (·.field) = (ys.filter (·.required)).map (·.field) := by
    rw [← Option.some_inj, ← ruleKeys?_build hx, ← ruleKeys?_build hy, h]
  have hconditions : (xs.filter (·.required)).map
        (fun x => (x.label.escape, checkEvent x.kind?)) =
      (ys.filter (·.required)).map fun y => (y.label.escape, checkEvent y.kind?) := by
    rw [← Option.some_inj, ← ruleConditions?_build hx, ← ruleConditions?_build hy, h]
  have hescape : Function.Injective
      fun s : Text × Text × Text => (s.1, s.2.1.escape, s.2.2) := by
    rintro ⟨field, label, event⟩ ⟨field', label', event'⟩ hsame
    simp only [Prod.mk.injEq] at hsame ⊢
    exact ⟨hsame.1, Text.escape_injective hsame.2.1, hsame.2.2⟩
  have hwritten (items : List Item) : (items.map Item.ruleSource).map
        (fun s : Text × Text × Text => (s.1, s.2.1.escape, s.2.2)) =
      (items.map (·.field)).zip
        (items.map fun item => (item.label.escape, checkEvent item.kind?)) := by
    rw [List.zip_map', List.map_map]
    rfl
  apply List.map_injective_iff.mpr hescape
  rw [hwritten, hwritten, hkeys, hconditions]

/-- The script is made from the members and from the sources of the rules alone. -/
theorem build_congr (hmembers : xs.map Item.member = ys.map Item.member)
    (hrules : (xs.filter (·.required)).map Item.ruleSource =
      (ys.filter (·.required)).map Item.ruleSource) : build xs = build ys := by
  have hrule (items : List Item) : items.map Item.rule =
      (items.map Item.ruleSource).map
        fun s : Text × Text × Text => ⟨s.1, s.2.1.escape, s.2.2⟩ := by
    rw [List.map_map]
    rfl
  rw [build, build, hmembers, hrule, hrules, ← hrule]

theorem sources_eq_of_differsUnwritten (h : List.Forall₂ Item.DiffersUnwritten xs ys) :
    xs.map Item.member = ys.map Item.member ∧
      (xs.filter (·.required)).map Item.ruleSource =
        (ys.filter (·.required)).map Item.ruleSource := by
  induction h with
  | nil => exact ⟨rfl, rfl⟩
  | @cons x y xs ys hfirst hrest ih =>
    obtain ⟨hmembers, hrules⟩ := ih
    have hmember : x.member = y.member := by
      rw [Item.member, Item.member, hfirst.field, hfirst.kind]
    refine ⟨by rw [List.map_cons, List.map_cons, hmember, hmembers], ?_⟩
    cases hx : x.required with
    | false =>
      have hy : y.required = false := hfirst.required ▸ hx
      rw [List.filter_cons_of_neg (by simp [hx]), List.filter_cons_of_neg (by simp [hy]), hrules]
    | true =>
      have hy : y.required = true := hfirst.required ▸ hx
      have hsource : x.ruleSource = y.ruleSource := by
        rw [Item.ruleSource, Item.ruleSource, hfirst.field, hfirst.kind, hfirst.label hx]
      rw [List.filter_cons_of_pos (by simp [hx]), List.filter_cons_of_pos (by simp [hy]),
        List.map_cons, List.map_cons, hsource, hrules]

/-- A script depends on exactly what it shows. Items without line feeds in their fields and labels
have the same script exactly when their members are the same and the rules of the required ones
are made from the same; and whatever else is changed in an item, the script stays. -/
theorem build_eq_iff_sources (h : ∀ item ∈ xs ++ ys, newline ∉ item.field ∧ newline ∉ item.label) :
    (build xs = build ys ↔ xs.map Item.member = ys.map Item.member ∧
      (xs.filter (·.required)).map Item.ruleSource =
        (ys.filter (·.required)).map Item.ruleSource) ∧
      (List.Forall₂ Item.DiffersUnwritten xs ys → build xs = build ys) := by
  rw [List.forall_mem_append] at h
  refine ⟨⟨?_, ?_⟩, ?_⟩
  · intro hsame
    exact ⟨members_eq_of_build h.1 h.2 hsame, ruleSources_eq_of_build h.1 h.2 hsame⟩
  · rintro ⟨hmembers, hrules⟩
    exact build_congr hmembers hrules
  · intro hunwritten
    obtain ⟨hmembers, hrules⟩ := sources_eq_of_differsUnwritten hunwritten
    exact build_congr hmembers hrules

/-- A label that looks like the end of its rule is told from that end, and renaming an unknown kind
or the label of a field that is not required changes nothing. -/
theorem build_eq_iff_sources_lookalike :
    build [⟨⟨1, lit "A", lit "a", none, true, false⟩, .select []⟩,
        ⟨⟨2, lit "B", lit "b: [", none, false, false⟩, .unknown (lit "slider")⟩] ≠
      build [⟨⟨1, lit "A', trigger: 'change' \x7d", lit "a", none, true, false⟩, .input⟩,
        ⟨⟨2, lit "B", lit "b: [", none, false, false⟩, .unknown (lit "slider")⟩] ∧
    build [⟨⟨1, lit "A", lit "a", none, true, false⟩, .select []⟩,
        ⟨⟨2, lit "B", lit "b: [", none, false, false⟩, .unknown (lit "slider")⟩] =
      build [⟨⟨3, lit "A", lit "a", some (lit "x"), true, true⟩,
          .select [⟨lit "c", .text (lit "v")⟩]⟩,
        ⟨⟨4, lit "C", lit "b: [", none, false, false⟩, .unknown (lit "rating")⟩] := by
  constructor
  · rw [Ne, (build_eq_iff_sources (by decide)).1]
    decide
  · apply (build_eq_iff_sources (by decide)).2
    refine .cons ⟨rfl, rfl, rfl, fun _ => rfl⟩ (.cons ⟨rfl, by decide, rfl, ?_⟩ .nil)
    intro hrequired
    cases hrequired

end

end Script

end Formwright
