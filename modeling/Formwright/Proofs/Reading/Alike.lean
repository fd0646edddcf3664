import Formwright.Proofs.Outcome

/-!
Two readings side by side. They are alike when both fail with the same issues or
both give results that are related, and this passes through every way in which
readings are put together.
-/

namespace Formwright.Reading

variable {α β α' β' : Type}

/-- Whether two readings fail with the same issues or give related results. -/
inductive Alike (related : α → β → Prop) : Reading α → Reading β → Prop
  | ok {a : α} {b : β} (h : related a b) : Alike related (.ok a) (.ok b)
  | error (issues : List Issue) : Alike related (.error issues) (.error issues)

namespace Alike

variable {related : α → β → Prop} {related' : α' → β' → Prop} {r : Reading α} {s : Reading β}

theorem within (step : Step) (h : Alike related r s) :
    Alike related (r.within step) (s.within step) := by
  cases h with
  | ok h => exact .ok h
  | error issues => exact .error _

theorem map {f : α → α'} {g : β → β'} (h : Alike related r s)
    (hmap : ∀ a b, related a b → related' (f a) (g b)) : Alike related' (r.map f) (s.map g) := by
  cases h with
  | ok h => exact .ok (hmap _ _ h)
  | error issues => exact .error issues

theorem both {r' : Reading α'} {s' : Reading β'} (h : Alike related r s)
    (h' : Alike related' r' s') :
    Alike (fun x y => related x.1 y.1 ∧ related' x.2 y.2) (Reading.both r r')
      (Reading.both s s') := by
  cases h with
  | ok h =>
    cases h' with
    | ok h' => exact .ok ⟨h, h'⟩
    | error later => exact .error later
  | error issues =>
    cases h' with
    | ok h' => exact .error issues
    | error later => exact .error (issues ++ later)

theorem all {readings : List (Reading α)} {readings' : List (Reading β)}
    (h : List.Forall₂ (Alike related) readings readings') :
    Alike (List.Forall₂ related) (Reading.all readings) (Reading.all readings') := by
  induction h with
  | nil => exact .ok .nil
  | cons hfirst hrest ih => exact (hfirst.both ih).map fun _ _ hboth => .cons hboth.1 hboth.2

end Alike

end Formwright.Reading
