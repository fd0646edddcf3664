import Mathlib.Data.List.Forall2
import Formwright.Reading.Issue

/-!
What it takes for an outcome to be a result: each step of a chain, each element
of a list and both halves of a pair must have given one. Every statement is an
equivalence, so a result can be taken apart and put together by the same lemma.
-/

namespace Formwright.Outcome

variable {ε α β : Type}

theorem bind_eq_ok {x : Except ε α} {f : α → Except ε β} {b : β} :
    x >>= f = .ok b ↔ ∃ a, x = .ok a ∧ f a = .ok b := by
  cases x with
  | error e => simp [bind, Except.bind]
  | ok a => simp [bind, Except.bind]

theorem bind_eq_error {x : Except ε α} {f : α → Except ε β} {e : ε} :
    x >>= f = .error e ↔ x = .error e ∨ ∃ a, x = .ok a ∧ f a = .error e := by
  cases x with
  | error e' => simp [bind, Except.bind]
  | ok a => simp [bind, Except.bind]

theorem bind_pure_eq_ok {x : Except ε α} {f : α → β} {b : β} :
    (x >>= fun a => pure (f a)) = .ok b ↔ ∃ a, x = .ok a ∧ b = f a := by
  rw [bind_eq_ok]
  constructor
  · rintro ⟨a, ha, hpure⟩
    cases hpure
    exact ⟨a, ha, rfl⟩
  · rintro ⟨a, ha, rfl⟩
    exact ⟨a, ha, rfl⟩

theorem map_eq_ok {x : Except ε α} {f : α → β} {b : β} :
    x.map f = .ok b ↔ ∃ a, x = .ok a ∧ f a = b := by
  cases x with
  | error e => simp [Except.map]
  | ok a => simp [Except.map]

theorem map_eq_error {x : Except ε α} {f : α → β} {e : ε} : x.map f = .error e ↔ x = .error e := by
  cases x with
  | error e' => simp [Except.map]
  | ok a => simp [Except.map]

theorem mapError_eq_ok {ε' : Type} {x : Except ε α} {f : ε → ε'} {a : α} :
    x.mapError f = .ok a ↔ x = .ok a := by
  cases x with
  | error e => simp [Except.mapError]
  | ok a => simp [Except.mapError]

theorem mapError_eq_error {ε' : Type} {x : Except ε α} {f : ε → ε'} {e : ε'} :
    x.mapError f = .error e ↔ ∃ e', x = .error e' ∧ f e' = e := by
  cases x with
  | error e' => simp [Except.mapError]
  | ok a => simp [Except.mapError]

theorem mapM_eq_ok {f : α → Except ε β} {xs : List α} {ys : List β} :
    xs.mapM f = .ok ys ↔ List.Forall₂ (fun x y => f x = .ok y) xs ys := by
  induction xs generalizing ys with
  | nil => cases ys <;> simp [pure, Except.pure]
  | cons x xs ih =>
    rw [List.mapM_cons, bind_eq_ok]
    constructor
    · rintro ⟨y, hy, hrest⟩
      obtain ⟨ys', hys', hpure⟩ := bind_eq_ok.mp hrest
      cases hpure
      exact .cons hy (ih.mp hys')
    · intro h
      cases h with
      | cons hy hrest => exact ⟨_, hy, bind_eq_ok.mpr ⟨_, ih.mpr hrest, rfl⟩⟩

/-- A list has results as soon as each of its elements has one. -/
theorem exists_mapM_eq_ok {f : α → Except ε β} {xs : List α} :
    (∃ ys, xs.mapM f = .ok ys) ↔ ∀ x ∈ xs, ∃ y, f x = .ok y := by
  simp only [mapM_eq_ok]
  induction xs with
  | nil => exact ⟨fun _ => by simp, fun _ => ⟨[], .nil⟩⟩
  | cons x xs ih =>
    constructor
    · rintro ⟨_, h⟩
      cases h with
      | cons hy hrest =>
        intro x' hx'
        rcases List.mem_cons.mp hx' with rfl | hx'
        · exact ⟨_, hy⟩
        · exact ih.mp ⟨_, hrest⟩ x' hx'
    · intro h
      obtain ⟨y, hy⟩ := h x (by simp)
      obtain ⟨ys, hys⟩ := ih.mpr fun x' hx' => h x' (List.mem_cons_of_mem x hx')
      exact ⟨y :: ys, .cons hy hys⟩

/-- Whether an outcome that is no result is that error. -/
def FailsOnlyWith (e : ε) (x : Except ε α) : Prop :=
  ∀ e', x = .error e' → e' = e

namespace FailsOnlyWith

variable {e : ε} {x : Except ε α}

theorem of_ok (a : α) : FailsOnlyWith e (.ok a) :=
  fun _ h => by cases h

theorem bind {f : α → Except ε β} (hx : FailsOnlyWith e x) (hf : ∀ a, FailsOnlyWith e (f a)) :
    FailsOnlyWith e (x >>= f) := by
  intro e' h
  rcases bind_eq_error.mp h with h | ⟨a, -, h⟩
  · exact hx e' h
  · exact hf a e' h

theorem mapM {f : α → Except ε β} {xs : List α} (h : ∀ x ∈ xs, FailsOnlyWith e (f x)) :
    FailsOnlyWith e (xs.mapM f) := by
  induction xs with
  | nil => exact of_ok []
  | cons x xs ih =>
    rw [List.forall_mem_cons] at h
    rw [List.mapM_cons]
    exact h.1.bind fun _ => (ih h.2).bind fun _ => of_ok _

theorem eq_error (h : FailsOnlyWith e x) (hnone : ¬ ∃ a, x = .ok a) : x = .error e := by
  cases x with
  | ok a => exact absurd ⟨a, rfl⟩ hnone
  | error e' => rw [h e' rfl]

end FailsOnlyWith

end Formwright.Outcome

namespace Formwright.Reading

variable {α β : Type}

theorem both_eq_ok {r : Reading α} {s : Reading β} {a : α} {b : β} :
    both r s = .ok (a, b) ↔ r = .ok a ∧ s = .ok b := by
  cases r with
  | error issues => cases s <;> simp [both]
  | ok a' => cases s <;> simp [both]

theorem within_eq_ok {step : Step} {r : Reading α} {a : α} :
    r.within step = .ok a ↔ r = .ok a :=
  Outcome.mapError_eq_ok

theorem ofCause_eq_ok {input : Value} {x : Except Cause α} {a : α} :
    ofCause input x = .ok a ↔ x = .ok a := by
  cases x with
  | error cause => simp [ofCause, refuse]
  | ok a' => simp [ofCause]

theorem refuse_ne_ok {cause : Cause} {input : Value} {a : α} :
    (refuse cause input : Reading α) ≠ .ok a := by
  simp [refuse]

theorem all_eq_ok {readings : List (Reading α)} {results : List α} :
    all readings = .ok results ↔ List.Forall₂ (fun r a => r = .ok a) readings results := by
  induction readings generalizing results with
  | nil => cases results <;> simp [all]
  | cons r readings ih =>
    rw [all, Outcome.map_eq_ok]
    constructor
    · rintro ⟨⟨a, as⟩, hboth, rfl⟩
      obtain ⟨hr, hrest⟩ := both_eq_ok.mp hboth
      exact .cons hr (ih.mp hrest)
    · intro h
      cases h with
      | cons hr hrest => exact ⟨(_, _), both_eq_ok.mpr ⟨hr, ih.mpr hrest⟩, rfl⟩

end Formwright.Reading
