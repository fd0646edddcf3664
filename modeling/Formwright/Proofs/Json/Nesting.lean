import Formwright.Proofs.Json.Stops

/-!
How deep a text is nested, found without reading it: brackets are counted outside
strings only. The reader refuses a text as too deep only when its nesting passes
the limit; it never runs out of fuel before.
-/

namespace Formwright

namespace Text

/-- The most arrays and objects open at once from here on, inside a string or outside, when some
levels are open already. In a string a backslash takes the next sign with it. -/
def nestingFrom : (quoted : Bool) → (level : Nat) → Text → Nat
  | _, level, [] => level
  | true, level, c :: rest =>
    if c = .scalar '"' then nestingFrom false level rest
    else if c = .scalar '\\' then
      match rest with
      | [] => level
      | _ :: behind => nestingFrom true level behind
    else nestingFrom true level rest
  | false, level, c :: rest =>
    if c = .scalar '"' then nestingFrom true level rest
    else if c = .scalar '[' ∨ c = .scalar '{' then nestingFrom false (level + 1) rest
    else if c = .scalar ']' ∨ c = .scalar '}' then max level (nestingFrom false (level - 1) rest)
    else nestingFrom false level rest

/-- The most arrays and objects open at once in a text. -/
def nesting (t : Text) : Nat :=
  nestingFrom false 0 t

theorem level_le_nestingFrom (quoted : Bool) (level : Nat) (t : Text) :
    level ≤ nestingFrom quoted level t := by
  fun_induction nestingFrom quoted level t with
  | case1 | case3 => exact Nat.le_refl _
  | case2 | case4 | case5 | case6 | case9 => assumption
  | case7 => omega
  | case8 => omega

theorem nestingFrom_quoted {c : CodePoint} (hquote : c ≠ .scalar '"') (hslash : c ≠ .scalar '\\')
    (level : Nat) (rest : Text) :
    nestingFrom true level (c :: rest) = nestingFrom true level rest := by
  rw [nestingFrom.eq_def]
  simp only [if_neg hquote, if_neg hslash]

theorem nestingFrom_opening (level : Nat) (rest : Text) :
    nestingFrom false level (.scalar '"' :: rest) = nestingFrom true level rest := by
  rw [nestingFrom.eq_def]
  simp only [if_true]

theorem nestingFrom_closing (level : Nat) (rest : Text) :
    nestingFrom true level (.scalar '"' :: rest) = nestingFrom false level rest := by
  rw [nestingFrom.eq_def]
  simp only [if_true]

theorem nestingFrom_bracket {c : CodePoint} (h : c = .scalar '[' ∨ c = .scalar '{') (level : Nat)
    (rest : Text) : nestingFrom false level (c :: rest) = nestingFrom false (level + 1) rest := by
  have hquote : c ≠ .scalar '"' := by
    rcases h with rfl | rfl <;> decide
  rw [nestingFrom.eq_def]
  simp only [if_neg hquote, if_pos h]

theorem nestingFrom_inert {c : CodePoint} (h : c.IsInert) (level : Nat) (rest : Text) :
    nestingFrom false level (c :: rest) = nestingFrom false level rest := by
  have hmarks : ∀ d ∈ lit "\"[]\x7b\x7d", c ≠ d := by
    rintro d hd rfl
    exact h hd
  simp only [lit, String.reduceToList, List.map_cons, List.map_nil, List.forall_mem_cons] at hmarks
  obtain ⟨hquote, hopen, hclose, hopenBrace, hcloseBrace, -⟩ := hmarks
  rw [nestingFrom.eq_def]
  simp only [if_neg hquote, if_neg (not_or.mpr ⟨hopen, hopenBrace⟩),
    if_neg (not_or.mpr ⟨hclose, hcloseBrace⟩)]

theorem nestingFrom_passes {t rest : Text} (h : t.Passes rest) (level : Nat) :
    nestingFrom false level t = nestingFrom false level rest := by
  obtain ⟨s, rfl, hs⟩ := h
  induction s with
  | nil => rfl
  | cons c s ih =>
    rw [List.forall_mem_cons] at hs
    rw [List.cons_append, nestingFrom_inert hs.1, ih hs.2]

end Text

namespace CodePoint

theorem not_mark_of_hexDigit? {c : CodePoint} {d : Nat} (h : c.hexDigit? = some d) :
    c ≠ .scalar '"' ∧ c ≠ .scalar '\\' := by
  constructor
  · rintro rfl
    cases h
  · rintro rfl
    cases h

end CodePoint

namespace Json

open Text (nestingFrom)

theorem nestingFrom_hexUnit {a b c d : CodePoint} {unit : Nat} (h : hexUnit? a b c d = some unit)
    (level : Nat) (rest : Text) :
    nestingFrom true level (a :: b :: c :: d :: rest) = nestingFrom true level rest := by
  simp only [hexUnit?, Option.bind_eq_bind, Option.bind_eq_some_iff, Option.pure_def] at h
  obtain ⟨_, ha, _, hb, _, hc, _, hd, -⟩ := h
  obtain ⟨haquote, haslash⟩ := CodePoint.not_mark_of_hexDigit? ha
  obtain ⟨hbquote, hbslash⟩ := CodePoint.not_mark_of_hexDigit? hb
  obtain ⟨hcquote, hcslash⟩ := CodePoint.not_mark_of_hexDigit? hc
  obtain ⟨hdquote, hdslash⟩ := CodePoint.not_mark_of_hexDigit? hd
  rw [Text.nestingFrom_quoted haquote haslash, Text.nestingFrom_quoted hbquote hbslash,
    Text.nestingFrom_quoted hcquote hcslash, Text.nestingFrom_quoted hdquote hdslash]

/-- The reader leaves a string where the count of brackets does. -/
theorem nestingFrom_readString {start reversed t s rest : Text} {after : Bool} (level : Nat)
    (h : readString start after reversed t = .ok (s, rest)) :
    nestingFrom true level t = nestingFrom false level rest := by
  fun_induction readString start after reversed t with
  | case1 | case3 | case5 | case6 | case8 | case9 => cases h
  | case2 =>
    cases h
    exact Text.nestingFrom_closing level _
  | case4 _ _ a b c d next tail unit hunit hslash ih =>
    have hescape : nestingFrom true level
        (.scalar '\\' :: .scalar 'u' :: a :: b :: c :: d :: next :: tail) =
          nestingFrom true level (a :: b :: c :: d :: next :: tail) := rfl
    rw [hescape, nestingFrom_hexUnit hunit, ih h]
  | case7 _ _ e tail hunit c hsimple hslash ih =>
    have hescape : nestingFrom true level (.scalar '\\' :: e :: tail) =
        nestingFrom true level tail := rfl
    rw [hescape, ih h]
  | case10 _ _ c tail hquote hslash hcontrol ih =>
    rw [Text.nestingFrom_quoted hquote hslash, ih h]

theorem nestingFrom_skipBlanks (t : Text) (level : Nat) :
    nestingFrom false level (skipBlanks t) = nestingFrom false level t :=
  (Text.nestingFrom_passes (skipBlanks_passes t) level).symm

theorem nestingFrom_of_skipBlanks {t rest : Text} {c : CodePoint}
    (h : skipBlanks t = c :: rest) (hc : c.IsInert) (level : Nat) :
    nestingFrom false level rest = nestingFrom false level t := by
  rw [← nestingFrom_skipBlanks t, h, Text.nestingFrom_inert hc]

theorem nestingFrom_le_of_close {t rest : Text} {c : CodePoint} (h : skipBlanks t = c :: rest)
    (hc : c = .scalar ']' ∨ c = .scalar '}') (level : Nat) :
    nestingFrom false level rest ≤ nestingFrom false (level + 1) t := by
  rw [← nestingFrom_skipBlanks t, h]
  rcases hc with rfl | rfl <;> exact Nat.le_max_right _ _

theorem nestingFrom_value {start body name behind spelled : Text} {level : Nat}
    (hname : readString start false [] body = .ok (name, behind))
    (hcolon : skipBlanks behind = .scalar ':' :: spelled) :
    nestingFrom false level (skipBlanks spelled) =
      nestingFrom false level (.scalar '"' :: body) := by
  rw [nestingFrom_skipBlanks, nestingFrom_of_skipBlanks hcolon (by decide),
    Text.nestingFrom_opening, nestingFrom_readString level hname]

/-- How many levels are open where a goal is read, besides those around it. -/
def Goal.levels : Goal → Nat
  | value => 0
  | items _ | members _ => 1

variable {limits : Limits}

/-- Reading leaves the count of brackets as it found it, so nothing behind is deeper than all of
the text was. -/
theorem Reads.nestingFrom_le {goal : Goal} {t rest : Text} {j : Json}
    (h : Reads limits goal t j rest) (level : Nat) :
    nestingFrom false level rest ≤ nestingFrom false (level + goal.levels) t := by
  induction h generalizing level with
  | text hstring =>
    rw [Goal.levels, Nat.add_zero, Text.nestingFrom_opening, nestingFrom_readString level hstring]
  | word hword => exact (Text.nestingFrom_passes (readWord?_passes hword) level).ge
  | number hnumber => exact (Text.nestingFrom_passes (readNumber_eq_ok hnumber).1 level).ge
  | emptyArray hclose => exact nestingFrom_le_of_close hclose (.inl rfl) level
  | emptyObject hclose => exact nestingFrom_le_of_close hclose (.inr rfl) level
  | array hitems ih | object hmembers ih =>
    have hrest := ih level
    rw [nestingFrom_skipBlanks] at hrest
    exact hrest
  | lastItem hitem hclose ih =>
    exact (nestingFrom_le_of_close hclose (.inl rfl) level).trans (ih (level + 1))
  | nextItem hitem hcomma hitems ih ihrest =>
    have hrest := ihrest level
    rw [nestingFrom_skipBlanks, nestingFrom_of_skipBlanks hcomma (by decide)] at hrest
    exact hrest.trans (ih (level + 1))
  | lastMember hname hcolon hvalue hclose ih =>
    have hafter := ih (level + 1)
    rw [Goal.levels, Nat.add_zero, nestingFrom_value hname hcolon] at hafter
    exact (nestingFrom_le_of_close hclose (.inr rfl) level).trans hafter
  | nextMember hname hcolon hvalue hcomma hmembers ih ihrest =>
    have hafter := ih (level + 1)
    rw [Goal.levels, Nat.add_zero, nestingFrom_value hname hcolon] at hafter
    have hrest := ihrest level
    rw [nestingFrom_skipBlanks, nestingFrom_of_skipBlanks hcomma (by decide)] at hrest
    exact hrest.trans hafter

theorem length_skipBlanks_le (t : Text) : (skipBlanks t).length ≤ t.length :=
  (skipBlanks_suffix t).length_le

theorem length_lt_of_skipBlanks {t rest : Text} {c : CodePoint} (h : skipBlanks t = c :: rest) :
    rest.length < t.length := by
  have hle := length_skipBlanks_le t
  rw [h, List.length_cons] at hle
  exact hle

/-- With fuel for twice its length, a text whose nesting keeps to the levels that may be opened is
not refused as too deep. -/
structure KeepsWithin (limits : Limits) (fuel : Nat) : Prop where
  value : ∀ {depth level : Nat} {t : Text}, 2 * t.length < fuel →
    nestingFrom false level t ≤ level + depth → readValue limits fuel depth t ≠ .error .tooDeep
  items : ∀ {depth level : Nat} {reversed : List Json} {t : Text}, 2 * t.length + 1 < fuel →
    nestingFrom false level t ≤ level + depth →
      readItems limits fuel depth reversed t ≠ .error .tooDeep
  members : ∀ {depth level : Nat} {before : List (Text × Json)} {t : Text},
    2 * t.length + 1 < fuel → nestingFrom false level t ≤ level + depth →
      readMembers limits fuel depth before t ≠ .error .tooDeep

namespace KeepsWithin

variable {fuel depth level : Nat}

/-- Behind a bracket there is one level less to open, and one more is open. -/
theorem nestingFrom_le_of_bracket {c : CodePoint} {rest : Text}
    (hc : c = .scalar '[' ∨ c = .scalar '{')
    (h : nestingFrom false level (c :: rest) ≤ level + depth) :
    ∃ left, depth = left + 1 ∧ nestingFrom false (level + 1) (skipBlanks rest) ≤
      level + 1 + left := by
  rw [Text.nestingFrom_bracket hc] at h
  have hlevel := Text.level_le_nestingFrom false (level + 1) rest
  rw [nestingFrom_skipBlanks]
  exact ⟨depth - 1, by omega, by omega⟩

theorem value_succ {t : Text} (ih : KeepsWithin limits fuel) (hfuel : 2 * t.length < fuel + 1)
    (hdeep : nestingFrom false level t ≤ level + depth) :
    readValue limits (fuel + 1) depth t ≠ .error .tooDeep := by
  intro h
  cases readValue_stops h with
  | string h =>
    obtain ⟨_, _, hstop⟩ := readString_eq_error h
    cases hstop
  | noLevel hc =>
    obtain ⟨left, hnone, -⟩ := nestingFrom_le_of_bracket hc hdeep
    cases hnone
  | @array _ body _ h =>
    obtain ⟨left, hdepth, hleft⟩ := nestingFrom_le_of_bracket (.inl rfl) hdeep
    obtain rfl := Nat.succ.inj hdepth
    have hskip := length_skipBlanks_le body
    rw [List.length_cons] at hfuel
    exact ih.items (by omega) hleft h
  | @object _ body _ h =>
    obtain ⟨left, hdepth, hleft⟩ := nestingFrom_le_of_bracket (.inr rfl) hdeep
    obtain rfl := Nat.succ.inj hdepth
    have hskip := length_skipBlanks_le body
    rw [List.length_cons] at hfuel
    exact ih.members (by omega) hleft h
  | number h =>
    rcases readNumber_eq_error h with hstop | ⟨_, hstop, -⟩ <;> cases hstop

theorem items_succ {reversed : List Json} {t : Text} (ih : KeepsWithin limits fuel)
    (hfuel : 2 * t.length + 1 < fuel + 1) (hdeep : nestingFrom false level t ≤ level + depth) :
    readItems limits (fuel + 1) depth reversed t ≠ .error .tooDeep := by
  intro h
  cases readItems_stops h with
  | item h => exact ih.value (by omega) hdeep h
  | @next _ _ next _ hitem hcomma h =>
    have hreads := (sound limits fuel).value hitem
    have hlength := hreads.suffix.length_le
    have hnext := length_lt_of_skipBlanks hcomma
    have hskip := length_skipBlanks_le next
    have hrest := hreads.nestingFrom_le level
    rw [← nestingFrom_of_skipBlanks hcomma (by decide), ← nestingFrom_skipBlanks] at hrest
    exact ih.items (by omega) (hrest.trans hdeep) h

theorem members_succ {before : List (Text × Json)} {t : Text} (ih : KeepsWithin limits fuel)
    (hfuel : 2 * t.length + 1 < fuel + 1) (hdeep : nestingFrom false level t ≤ level + depth) :
    readMembers limits (fuel + 1) depth before t ≠ .error .tooDeep := by
  intro h
  have hlonger {body name behind spelled : Text}
      (hname : readString (.scalar '"' :: body) false [] body = .ok (name, behind))
      (hcolon : skipBlanks behind = .scalar ':' :: spelled) :
      (skipBlanks spelled).length < body.length := by
    have hbody := (readString_suffix hname).length_le
    have hbehind := length_lt_of_skipBlanks hcolon
    have hskip := length_skipBlanks_le spelled
    omega
  cases readMembers_stops h with
  | value hname hcolon h =>
    have hspelled := hlonger hname hcolon
    rw [List.length_cons] at hfuel
    exact ih.value (by omega) (nestingFrom_value hname hcolon ▸ hdeep) h
  | @next _ _ _ _ _ next _ _ hname hcolon hvalue hcomma h =>
    have hspelled := hlonger hname hcolon
    have hreads := (sound limits fuel).value hvalue
    have hlength := hreads.suffix.length_le
    have hnext := length_lt_of_skipBlanks hcomma
    have hskip := length_skipBlanks_le next
    have hrest := hreads.nestingFrom_le level
    rw [← nestingFrom_of_skipBlanks hcomma (by decide), ← nestingFrom_skipBlanks] at hrest
    rw [List.length_cons] at hfuel
    exact ih.members (by omega) (hrest.trans (nestingFrom_value hname hcolon ▸ hdeep)) h

end KeepsWithin

theorem keepsWithin (limits : Limits) (fuel : Nat) : KeepsWithin limits fuel := by
  induction fuel with
  | zero =>
    constructor
    case value =>
      intro depth level t hfuel
      omega
    case items =>
      intro depth level reversed t hfuel
      omega
    case members =>
      intro depth level before t hfuel
      omega
  | succ fuel ih => exact ⟨ih.value_succ, ih.items_succ, ih.members_succ⟩

/-- A text is refused as too deep only when its nesting passes the limit. -/
theorem readWithin_ne_tooDeep {t : Text} (h : t.nesting ≤ limits.nesting) :
    readWithin limits t ≠ .error .tooDeep := by
  intro hread
  have hlength := length_skipBlanks_le t
  have hvalue := @(keepsWithin limits (2 * t.length + 2)).value limits.nesting 0 (skipBlanks t)
    (by omega) (by rwa [nestingFrom_skipBlanks, Nat.zero_add])
  rw [readWithin.eq_def] at hread
  split at hread
  · cases hread
  · simp only at hread
    split at hread
    · rename_i stop hstop
      cases stop with
      | tooDeep => exact hvalue hstop
      | complaint | numeralTooLong => cases hread
    · split at hread <;> cases hread

end Json

end Formwright
