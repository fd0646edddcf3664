import Formwright.Proofs.Json.Lexemes

/-!
Where reading stops. One step of a reader stops where one of its parts does, so what
is known of a stop is passed from the parts to the whole. A reading that ends for
an integer past the limit has met one: a run of more digits than the limit allows
stands in the text. A text that is nothing but such a run is never read.
-/

namespace Formwright.Json

variable {limits : Limits} {fuel depth : Nat} {t : Text} {stop : Stop}

/-- What can be wrong inside a string can be said of a place. -/
theorem readString_eq_error {start reversed : Text} {after : Bool}
    (h : readString start after reversed t = .error stop) :
    ∃ c remaining, stop = .complaint c remaining := by
  fun_induction readString start after reversed t with
  | case1 | case3 | case5 | case6 | case8 | case9 =>
    cases h
    exact ⟨_, _, rfl⟩
  | case2 => cases h
  | case4 _ _ a b c d next tail unit hunit hslash ih => exact ih h
  | case7 _ _ e tail hunit c hsimple hslash ih => exact ih h
  | case10 _ _ c tail hquote hslash hcontrol ih => exact ih h

/-- Whether a run of so many digits, more than the limit, stands in a text. -/
def HoldsNumeral (limits : Limits) (digits : Nat) (t : Text) : Prop :=
  limits.digits < digits ∧
    ∃ numeral : Text, numeral <:+: t ∧ numeral.length = digits ∧ ∀ c ∈ numeral, c.isDigit

theorem HoldsNumeral.of_suffix {digits : Nat} {rest : Text} (h : HoldsNumeral limits digits rest)
    (hrest : rest <:+ t) : HoldsNumeral limits digits t := by
  obtain ⟨hlimit, numeral, hinfix, hnumeral⟩ := h
  exact ⟨hlimit, numeral, hinfix.trans hrest.isInfix, hnumeral⟩

/-- A number is missing, or it is an integer past the limit. -/
theorem readNumber_eq_error (h : readNumber limits t = .error stop) :
    stop = .complaint .value t.length ∨
      ∃ digits, stop = .numeralTooLong digits ∧ HoldsNumeral limits digits t := by
  unfold readNumber at h
  split at h
  rename_i negative body hsign
  have hbody : body <:+ t := by
    split at hsign
    · cases hsign
      exact List.suffix_cons _ _
    · cases hsign
      exact List.suffix_refl _
  extract_lets whole front at h
  have hwhole : whole <+: body ∧ ∀ c ∈ whole, c.isDigit = true := by
    simp only [whole]
    split
    · exact ⟨List.prefix_append _ _, by decide⟩
    · exact ⟨List.takeWhile_prefix _, fun c hc => List.mem_takeWhile_imp hc⟩
  split at h
  · cases h
    exact .inl rfl
  split at h
  split at h
  split at h
  · cases h
  split at h
  · rename_i hlimit
    cases h
    have hinfix := hwhole.1.isInfix.trans hbody.isInfix
    exact .inr ⟨_, rfl, hlimit, whole, hinfix, rfl, hwhole.2⟩
  · cases h

/-- Where the reading of a value stops. -/
inductive ValueStops (limits : Limits) (fuel : Nat) : (depth : Nat) → Text → Stop → Prop
  | string {depth : Nat} {body : Text} {stop : Stop}
    (h : readString (.scalar '"' :: body) false [] body = .error stop) :
    ValueStops limits fuel depth (.scalar '"' :: body) stop
  | noLevel {c : CodePoint} {body : Text} (hc : c = .scalar '[' ∨ c = .scalar '{') :
    ValueStops limits fuel 0 (c :: body) .tooDeep
  | array {depth : Nat} {body : Text} {stop : Stop}
    (h : readItems limits fuel depth [] (skipBlanks body) = .error stop) :
    ValueStops limits fuel (depth + 1) (.scalar '[' :: body) stop
  | object {depth : Nat} {body : Text} {stop : Stop}
    (h : readMembers limits fuel depth [] (skipBlanks body) = .error stop) :
    ValueStops limits fuel (depth + 1) (.scalar '{' :: body) stop
  | number {depth : Nat} {t : Text} {stop : Stop} (h : readNumber limits t = .error stop) :
    ValueStops limits fuel depth t stop

/-- Where the reading of the rest of an array stops. -/
inductive ItemsStop (limits : Limits) (fuel depth : Nat) (reversed : List Json) (t : Text) :
    Stop → Prop
  | item {stop : Stop} (h : readValue limits fuel depth t = .error stop) :
    ItemsStop limits fuel depth reversed t stop
  | next {item : Json} {behind next : Text} {stop : Stop}
    (hitem : readValue limits fuel depth t = .ok (item, behind))
    (hcomma : skipBlanks behind = .scalar ',' :: next)
    (h : readItems limits fuel depth (item :: reversed) (skipBlanks next) = .error stop) :
    ItemsStop limits fuel depth reversed t stop
  | complaint (c : Complaint) (remaining : Nat) :
    ItemsStop limits fuel depth reversed t (.complaint c remaining)

/-- Where the reading of the rest of an object stops. -/
inductive MembersStop (limits : Limits) (fuel depth : Nat) (before : List (Text × Json)) :
    Text → Stop → Prop
  | value {body name behind spelled : Text} {stop : Stop}
    (hname : readString (.scalar '"' :: body) false [] body = .ok (name, behind))
    (hcolon : skipBlanks behind = .scalar ':' :: spelled)
    (h : readValue limits fuel depth (skipBlanks spelled) = .error stop) :
    MembersStop limits fuel depth before (.scalar '"' :: body) stop
  | next {body name behind spelled after next : Text} {value : Json} {stop : Stop}
    (hname : readString (.scalar '"' :: body) false [] body = .ok (name, behind))
    (hcolon : skipBlanks behind = .scalar ':' :: spelled)
    (hvalue : readValue limits fuel depth (skipBlanks spelled) = .ok (value, after))
    (hcomma : skipBlanks after = .scalar ',' :: next)
    (h : readMembers limits fuel depth (putMember name value before) (skipBlanks next) =
      .error stop) :
    MembersStop limits fuel depth before (.scalar '"' :: body) stop
  | complaint (t : Text) (c : Complaint) (remaining : Nat) :
    MembersStop limits fuel depth before t (.complaint c remaining)

theorem readValue_stops (h : readValue limits (fuel + 1) depth t = .error stop) :
    ValueStops limits fuel depth t stop := by
  rw [readValue.eq_def] at h
  simp only at h
  split at h
  · rcases Outcome.bind_eq_error.mp h with hstring | ⟨_, -, hpure⟩
    · exact .string hstring
    · cases hpure
  · split at h
    · cases h
      exact .noLevel (.inr rfl)
    · split at h
      · cases h
      · exact .object h
  · split at h
    · cases h
      exact .noLevel (.inl rfl)
    · split at h
      · cases h
      · exact .array h
  · split at h
    · cases h
    · exact .number h

theorem readItems_stops {reversed : List Json}
    (h : readItems limits (fuel + 1) depth reversed t = .error stop) :
    ItemsStop limits fuel depth reversed t stop := by
  rw [readItems] at h
  rcases Outcome.bind_eq_error.mp h with hitem | ⟨⟨item, behind⟩, hitem, hbehind⟩
  · exact .item hitem
  simp only at hbehind
  split at hbehind
  · cases hbehind
  · rename_i hcomma
    exact .next hitem hcomma hbehind
  · cases hbehind
    exact .complaint _ _

theorem readMembers_stops {before : List (Text × Json)}
    (h : readMembers limits (fuel + 1) depth before t = .error stop) :
    MembersStop limits fuel depth before t stop := by
  rw [readMembers.eq_def] at h
  simp only at h
  split at h
  · rcases Outcome.bind_eq_error.mp h with hname | ⟨⟨name, behind⟩, hname, hbehind⟩
    · obtain ⟨c, remaining, rfl⟩ := readString_eq_error hname
      exact .complaint _ c remaining
    simp only at hbehind
    split at hbehind
    · rename_i hcolon
      rcases Outcome.bind_eq_error.mp hbehind with hvalue | ⟨⟨value, after⟩, hvalue, hafter⟩
      · exact .value hname hcolon hvalue
      simp only at hafter
      split at hafter
      · cases hafter
      · rename_i hcomma
        exact .next hname hcolon hvalue hcomma hafter
      · cases hafter
        exact .complaint _ _ _
    · cases hbehind
      exact .complaint _ _ _
  · cases h
    exact .complaint _ _ _

/-- The three readers of the same fuel stop for an integer only when the text holds it. -/
structure FindsNumeral (limits : Limits) (fuel : Nat) : Prop where
  value : ∀ {depth digits t}, readValue limits fuel depth t = .error (.numeralTooLong digits) →
    HoldsNumeral limits digits t
  items : ∀ {depth digits reversed t},
    readItems limits fuel depth reversed t = .error (.numeralTooLong digits) →
      HoldsNumeral limits digits t
  members : ∀ {depth digits before t},
    readMembers limits fuel depth before t = .error (.numeralTooLong digits) →
      HoldsNumeral limits digits t

namespace FindsNumeral

variable {digits : Nat}

theorem value_succ (ih : FindsNumeral limits fuel)
    (h : readValue limits (fuel + 1) depth t = .error (.numeralTooLong digits)) :
    HoldsNumeral limits digits t := by
  cases readValue_stops h with
  | string h =>
    obtain ⟨_, _, hstop⟩ := readString_eq_error h
    cases hstop
  | array h => exact (ih.items h).of_suffix ((skipBlanks_suffix _).trans (List.suffix_cons _ _))
  | object h =>
    exact (ih.members h).of_suffix ((skipBlanks_suffix _).trans (List.suffix_cons _ _))
  | number h =>
    rcases readNumber_eq_error h with hstop | ⟨_, hstop, hholds⟩
    · cases hstop
    · cases hstop
      exact hholds

theorem items_succ {reversed : List Json} (ih : FindsNumeral limits fuel)
    (h : readItems limits (fuel + 1) depth reversed t = .error (.numeralTooLong digits)) :
    HoldsNumeral limits digits t := by
  cases readItems_stops h with
  | item h => exact ih.value h
  | next hitem hcomma h =>
    have hbehind := ((sound limits fuel).value hitem).suffix
    have hnext := (suffix_of_skipBlanks hcomma).trans hbehind
    exact (ih.items h).of_suffix ((skipBlanks_suffix _).trans hnext)

theorem members_succ {before : List (Text × Json)} (ih : FindsNumeral limits fuel)
    (h : readMembers limits (fuel + 1) depth before t = .error (.numeralTooLong digits)) :
    HoldsNumeral limits digits t := by
  cases readMembers_stops h with
  | value hname hcolon h =>
    exact (ih.value h).of_suffix ((value_suffix hname hcolon).trans (List.suffix_cons _ _))
  | next hname hcolon hvalue hcomma h =>
    have hspelled := (value_suffix hname hcolon).trans (List.suffix_cons (.scalar '"') _)
    have hafter := ((sound limits fuel).value hvalue).suffix.trans hspelled
    have hnext := (suffix_of_skipBlanks hcomma).trans hafter
    exact (ih.members h).of_suffix ((skipBlanks_suffix _).trans hnext)

end FindsNumeral

theorem findsNumeral (limits : Limits) (fuel : Nat) : FindsNumeral limits fuel := by
  induction fuel with
  | zero =>
    constructor
    case value =>
      intro depth digits t h
      cases h
    case items =>
      intro depth digits reversed t h
      cases h
    case members =>
      intro depth digits before t h
      cases h
  | succ fuel ih => exact ⟨ih.value_succ, ih.items_succ, ih.members_succ⟩

/-- A text is refused for an integer only when a run of as many digits stands in it. -/
theorem holdsNumeral_of_readWithin {digits : Nat}
    (h : readWithin limits t = .error (.numeralTooLong digits)) : HoldsNumeral limits digits t := by
  rw [readWithin.eq_def] at h
  split at h
  · cases h
  · simp only at h
    split at h
    · rename_i stop hstop
      cases stop with
      | numeralTooLong =>
        cases h
        exact ((findsNumeral limits _).value hstop).of_suffix (skipBlanks_suffix t)
      | complaint | tooDeep => cases h
    · split at h <;> cases h

theorem readNumber_of_digits (hdigits : ∀ c ∈ t, c.isDigit) (hzero : t.head? ≠ some (.scalar '0'))
    (hlong : limits.digits < t.length) :
    readNumber limits t = .error (.numeralTooLong t.length) := by
  have hnonempty : t.isEmpty = false := by
    cases t with
    | nil => cases hlong
    | cons c rest => rfl
  have hwhole : t.takeWhile CodePoint.isDigit = t := List.takeWhile_eq_self_iff.mpr hdigits
  have hdrop : t.drop t.length = [] := List.drop_length
  unfold readNumber
  split
  rename_i negative body hsign
  have hbody : body = t := by
    split at hsign
    · have hminus := hdigits (.scalar '-') (by simp)
      cases hminus
    · cases hsign
      rfl
  subst hbody
  split
  · exact absurd rfl hzero
  · simp [hwhole, hdrop, hnonempty, takeFraction, takeExponent, hlong]

theorem readWord?_of_digit {c : CodePoint} {rest : Text} (hc : c.isDigit) :
    readWord? (c :: rest) = none := by
  rw [Option.eq_none_iff_forall_not_mem]
  rintro ⟨j, behind⟩ hword
  obtain ⟨word, hmem, hspelled⟩ := readWord?_eq_some hword
  have hall : ∀ entry ∈ words, ∃ d tail, entry.1 = d :: tail ∧ d.isDigit = false := by
    simp only [words, List.forall_mem_cons]
    exact ⟨⟨_, _, rfl, rfl⟩, ⟨_, _, rfl, rfl⟩, ⟨_, _, rfl, rfl⟩, ⟨_, _, rfl, rfl⟩, ⟨_, _, rfl, rfl⟩,
      ⟨_, _, rfl, rfl⟩, by simp⟩
  obtain ⟨d, tail, hd, hno⟩ := hall _ hmem
  simp only at hd
  rw [hd] at hspelled
  obtain rfl := (List.cons.inj hspelled).1
  rw [hno] at hc
  cases hc

/-- A text of digits, more than the limit allows and not led by a zero, ends the reading. -/
theorem readWithin_of_digits (hdigits : ∀ c ∈ t, c.isDigit) (hzero : t.head? ≠ some (.scalar '0'))
    (hlong : limits.digits < t.length) :
    readWithin limits t = .error (.numeralTooLong t.length) := by
  have hnumber := readNumber_of_digits hdigits hzero hlong
  cases t with
  | nil => cases hlong
  | cons c rest =>
    have hc : c.isDigit := hdigits c List.mem_cons_self
    have hmark {d : CodePoint} (hd : d.isDigit = false) : c ≠ d := by
      rintro rfl
      rw [hd] at hc
      cases hc
    have hblank : isBlank c = false := by
      simp [isBlank, hmark (d := .scalar ' ') rfl, hmark (d := .scalar '\t') rfl,
        hmark (d := .scalar '\n') rfl, hmark (d := .scalar '\r') rfl]
    have hskip : skipBlanks (c :: rest) = c :: rest := List.dropWhile_cons_of_neg (by simp [hblank])
    have hvalue (fuel depth : Nat) : readValue limits (fuel + 1) depth (c :: rest) =
        .error (.numeralTooLong (c :: rest).length) := by
      rw [readValue.eq_def]
      simp only
      split
      · rename_i hstart
        exact absurd (List.cons.inj hstart).1 (hmark rfl)
      · rename_i hstart
        exact absurd (List.cons.inj hstart).1 (hmark rfl)
      · rename_i hstart
        exact absurd (List.cons.inj hstart).1 (hmark rfl)
      · rw [readWord?_of_digit hc]
        exact hnumber
    rw [readWithin.eq_def]
    split
    · rename_i hstart
      exact absurd (List.cons.inj hstart).1 (hmark rfl)
    · rw [hskip, hvalue]

end Formwright.Json
