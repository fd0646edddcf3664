/-!
Scanning with steps that may fail. A scan that gets from one state to the next by the
parts of a list gets to the last by the whole list.
-/

namespace Formwright

variable {σ α : Type} {step? : σ → α → Option σ}

/-- Whether a scan gets from one state to the other by a list. -/
def Scans (step? : σ → α → Option σ) (signs : List α) (p q : σ) : Prop :=
  signs.foldlM step? p = some q

instance [DecidableEq σ] (signs : List α) (p q : σ) : Decidable (Scans step? signs p q) :=
  inferInstanceAs (Decidable (_ = _))

namespace Scans

variable {s t : List α} {c : α} {p q r : σ}

theorem nil (p : σ) : Scans step? [] p p := rfl

theorem cons_iff : Scans step? (c :: t) p r ↔ ∃ q, step? p c = some q ∧ Scans step? t q r :=
  Option.bind_eq_some_iff

theorem cons (hc : step? p c = some q) (ht : Scans step? t q r) : Scans step? (c :: t) p r :=
  cons_iff.mpr ⟨q, hc, ht⟩

theorem append (hs : Scans step? s p q) (ht : Scans step? t q r) : Scans step? (s ++ t) p r := by
  rw [Scans, List.foldlM_append, hs]
  exact ht

theorem append_iff :
    Scans step? (s ++ t) p r ↔ ∃ q, Scans step? s p q ∧ Scans step? t q r := by
  rw [Scans, List.foldlM_append]
  exact Option.bind_eq_some_iff

theorem singleton_iff : Scans step? [c] p q ↔ step? p c = some q := by
  rw [cons_iff]
  constructor
  · rintro ⟨r, hc, ⟨⟩⟩
    exact hc
  · intro hc
    exact ⟨q, hc, nil q⟩

/-- States that keep what was read since some point collect a list that keeps them going. -/
theorem collect (make : List α → σ)
    (h : ∀ c ∈ t, ∀ s, step? (make s) c = some (make (s ++ [c]))) (s : List α) :
    Scans step? t (make s) (make (s ++ t)) := by
  induction t generalizing s with
  | nil =>
    rw [List.append_nil]
    exact nil _
  | cons c t ih =>
    rw [List.forall_mem_cons] at h
    have hrest := ih h.2 (s ++ [c])
    rw [List.append_assoc] at hrest
    exact cons (h.1 s) hrest

theorem of_forall (h : ∀ c ∈ t, step? p c = some p) : Scans step? t p p :=
  collect (fun _ => p) (fun c hc _ => h c hc) []

end Scans

end Formwright
