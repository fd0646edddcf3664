import Formwright.Json.Reader
import Formwright.Proofs.Outcome

/-!
What the reader takes, rule by rule. Every successful reading has a derivation
in these rules, so what holds of all documents that are read is shown by
induction on derivations, without fuel and without the ways to fail.
-/

namespace Formwright.Json

/-- What is being read: a value, or what is left of an array or an object once the parts before it
are known. -/
inductive Goal where
  | value
  | items (reversed : List Json)
  | members (before : List (Text × Json))

/-- The rules by which a goal is read from a text, with the document it gives and the text behind
it. -/
inductive Reads (limits : Limits) : Goal → Text → Json → Text → Prop
  | text {start body s rest : Text} (hstring : readString start false [] body = .ok (s, rest)) :
    Reads limits .value (.scalar '"' :: body) (.text s) rest
  | word {t rest : Text} {j : Json} (hword : readWord? t = some (j, rest)) :
    Reads limits .value t j rest
  | number {t rest : Text} {j : Json} (hnumber : readNumber limits t = .ok (j, rest)) :
    Reads limits .value t j rest
  | emptyArray {body rest : Text} (hclose : skipBlanks body = .scalar ']' :: rest) :
    Reads limits .value (.scalar '[' :: body) (.array []) rest
  | array {body rest : Text} {j : Json}
    (hitems : Reads limits (.items []) (skipBlanks body) j rest) :
    Reads limits .value (.scalar '[' :: body) j rest
  | emptyObject {body rest : Text} (hclose : skipBlanks body = .scalar '}' :: rest) :
    Reads limits .value (.scalar '{' :: body) (.object []) rest
  | object {body rest : Text} {j : Json}
    (hmembers : Reads limits (.members []) (skipBlanks body) j rest) :
    Reads limits .value (.scalar '{' :: body) j rest
  | lastItem {reversed : List Json} {t behind rest : Text} {item : Json}
    (hitem : Reads limits .value t item behind) (hclose : skipBlanks behind = .scalar ']' :: rest) :
    Reads limits (.items reversed) t (.array (item :: reversed).reverse) rest
  | nextItem {reversed : List Json} {t behind next rest : Text} {item j : Json}
    (hitem : Reads limits .value t item behind) (hcomma : skipBlanks behind = .scalar ',' :: next)
    (hitems : Reads limits (.items (item :: reversed)) (skipBlanks next) j rest) :
    Reads limits (.items reversed) t j rest
  | lastMember {before : List (Text × Json)} {start body name behind spelled after rest : Text}
    {value : Json} (hname : readString start false [] body = .ok (name, behind))
    (hcolon : skipBlanks behind = .scalar ':' :: spelled)
    (hvalue : Reads limits .value (skipBlanks spelled) value after)
    (hclose : skipBlanks after = .scalar '}' :: rest) :
    Reads limits (.members before) (.scalar '"' :: body) (.object (putMember name value before))
      rest
  | nextMember {before : List (Text × Json)} {start body name behind spelled after next rest : Text}
    {value j : Json} (hname : readString start false [] body = .ok (name, behind))
    (hcolon : skipBlanks behind = .scalar ':' :: spelled)
    (hvalue : Reads limits .value (skipBlanks spelled) value after)
    (hcomma : skipBlanks after = .scalar ',' :: next)
    (hmembers : Reads limits (.members (putMember name value before)) (skipBlanks next) j rest) :
    Reads limits (.members before) (.scalar '"' :: body) j rest

variable {limits : Limits}

/-- The three readers of the same fuel keep to the rules. -/
structure Sound (limits : Limits) (fuel : Nat) : Prop where
  value : ∀ {depth t j rest}, readValue limits fuel depth t = .ok (j, rest) →
    Reads limits .value t j rest
  items : ∀ {depth reversed t j rest}, readItems limits fuel depth reversed t = .ok (j, rest) →
    Reads limits (.items reversed) t j rest
  members : ∀ {depth before t j rest}, readMembers limits fuel depth before t = .ok (j, rest) →
    Reads limits (.members before) t j rest

theorem Sound.value_succ {fuel depth : Nat} {t rest : Text} {j : Json} (ih : Sound limits fuel)
    (h : readValue limits (fuel + 1) depth t = .ok (j, rest)) : Reads limits .value t j rest := by
  rw [readValue.eq_def] at h
  simp only at h
  split at h
  · obtain ⟨⟨s, behind⟩, hstring, hpure⟩ := Outcome.bind_eq_ok.mp h
    cases hpure
    exact .text hstring
  · split at h
    · cases h
    · split at h
      · rename_i hclose
        cases h
        exact .emptyObject hclose
      · exact .object (ih.members h)
  · split at h
    · cases h
    · split at h
      · rename_i hclose
        cases h
        exact .emptyArray hclose
      · exact .array (ih.items h)
  · split at h
    · rename_i found hword
      cases h
      exact .word hword
    · exact .number h

theorem Sound.items_succ {fuel depth : Nat} {reversed : List Json} {t rest : Text} {j : Json}
    (ih : Sound limits fuel) (h : readItems limits (fuel + 1) depth reversed t = .ok (j, rest)) :
    Reads limits (.items reversed) t j rest := by
  rw [readItems] at h
  obtain ⟨⟨item, behind⟩, hitem, hbehind⟩ := Outcome.bind_eq_ok.mp h
  simp only at hbehind
  split at hbehind
  · rename_i hclose
    cases hbehind
    exact .lastItem (ih.value hitem) hclose
  · rename_i hcomma
    exact .nextItem (ih.value hitem) hcomma (ih.items hbehind)
  · cases hbehind

theorem Sound.members_succ {fuel depth : Nat} {before : List (Text × Json)} {t rest : Text}
    {j : Json} (ih : Sound limits fuel)
    (h : readMembers limits (fuel + 1) depth before t = .ok (j, rest)) :
    Reads limits (.members before) t j rest := by
  rw [readMembers.eq_def] at h
  simp only at h
  split at h
  · obtain ⟨⟨name, behind⟩, hname, hbehind⟩ := Outcome.bind_eq_ok.mp h
    simp only at hbehind
    split at hbehind
    · rename_i hcolon
      obtain ⟨⟨value, after⟩, hvalue, hafter⟩ := Outcome.bind_eq_ok.mp hbehind
      simp only at hafter
      split at hafter
      · rename_i hclose
        cases hafter
        exact .lastMember hname hcolon (ih.value hvalue) hclose
      · rename_i hcomma
        exact .nextMember hname hcolon (ih.value hvalue) hcomma (ih.members hafter)
      · cases hafter
    · cases hbehind
  · cases h

theorem sound (limits : Limits) (fuel : Nat) : Sound limits fuel := by
  induction fuel with
  | zero =>
    constructor
    case value =>
      intro depth t j rest h
      cases h
    case items =>
      intro depth reversed t j rest h
      cases h
    case members =>
      intro depth before t j rest h
      cases h
  | succ fuel ih => exact ⟨ih.value_succ, ih.items_succ, ih.members_succ⟩

/-- A text that is read is derived with nothing but blanks around it. -/
theorem reads_of_readWithin {t : Text} {j : Json} (h : readWithin limits t = .ok j) :
    ∃ rest, Reads limits .value (skipBlanks t) j rest := by
  rw [readWithin.eq_def] at h
  split at h
  · cases h
  · split at h
    · cases h
    · rename_i hvalue
      split at h
      · cases h
        exact ⟨_, (sound limits _).value hvalue⟩
      · cases h

end Formwright.Json
