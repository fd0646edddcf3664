/-!
A mark between two parts of a list. Where the part in front of the mark does not
hold it, or the part behind does not, both parts can be told from the whole.
-/

namespace Formwright.Mark

variable {α : Type} {mark : α}

/-- The first mark of a list separates what stands around it. -/
theorem append_inj_of_front {s s' t t' : List α} (hs : mark ∉ s) (hs' : mark ∉ s')
    (h : s ++ mark :: t = s' ++ mark :: t') : s = s' ∧ t = t' := by
  induction s generalizing s' with
  | nil =>
    cases s' with
    | nil => exact ⟨rfl, (List.cons.inj h).2⟩
    | cons c s' => exact absurd (List.cons.inj h).1 fun hc => hs' (by simp [hc])
  | cons c s ih =>
    cases s' with
    | nil => exact absurd (List.cons.inj h).1 fun hc => hs (by simp [hc])
    | cons c' s' =>
      obtain ⟨hc, hrest⟩ := List.cons.inj h
      have htail := ih (fun hmem => hs (List.mem_cons_of_mem c hmem))
        (fun hmem => hs' (List.mem_cons_of_mem c' hmem)) hrest
      exact ⟨by rw [hc, htail.1], htail.2⟩

/-- The last mark of a list separates what stands around it. -/
theorem append_inj_of_behind {s s' t t' : List α} (ht : mark ∉ t) (ht' : mark ∉ t')
    (h : s ++ mark :: t = s' ++ mark :: t') : s = s' ∧ t = t' := by
  have hreverse : t.reverse ++ mark :: s.reverse = t'.reverse ++ mark :: s'.reverse := by
    simpa using congrArg List.reverse h
  have hparts := append_inj_of_front (by simpa using ht) (by simpa using ht') hreverse
  exact ⟨List.reverse_inj.mp hparts.2, List.reverse_inj.mp hparts.1⟩

variable [DecidableEq α]

theorem takeWhile_append {s : List α} (h : mark ∉ s) (t : List α) :
    (s ++ mark :: t).takeWhile (· ≠ mark) = s := by
  induction s with
  | nil => simp
  | cons c s ih =>
    have hc : c ≠ mark := fun hc => h (by simp [hc])
    have hs : mark ∉ s := fun hs => h (List.mem_cons_of_mem c hs)
    rw [List.cons_append, List.takeWhile_cons_of_pos (by simpa using hc), ih hs]

theorem dropWhile_append {s : List α} (h : mark ∉ s) (t : List α) :
    (s ++ mark :: t).dropWhile (· ≠ mark) = mark :: t := by
  induction s with
  | nil => simp
  | cons c s ih =>
    have hc : c ≠ mark := fun hc => h (by simp [hc])
    have hs : mark ∉ s := fun hs => h (List.mem_cons_of_mem c hs)
    rw [List.cons_append, List.dropWhile_cons_of_pos (by simpa using hc), ih hs]

end Formwright.Mark
