import Formwright.Proofs.Text.Escape
import Mathlib.Logic.Function.Iterate

/-!
Escaping again and again. A pass does not look at the backslashes that earlier passes
left: each puts one more in front of every quote. So any number of passes puts that many
backslashes there and changes nothing else, and no number of passes makes two texts one.
-/

namespace Formwright.Text

/-- A text with `n` backslashes in front of each quote. -/
def guardTimes (n : Nat) (t : Text) : Text :=
  t.flatMap fun c => if IsQuote c then List.replicate n backslash ++ [c] else [c]

theorem guardTimes_zero (t : Text) : guardTimes 0 t = t := by
  simp [guardTimes]

theorem guardTimes_cons (n : Nat) (c : CodePoint) (t : Text) :
    guardTimes n (c :: t) =
      (if IsQuote c then List.replicate n backslash ++ [c] else [c]) ++ guardTimes n t :=
  List.flatMap_cons

theorem escape_replicate (n : Nat) :
    escape (List.replicate n backslash) = List.replicate n backslash := by
  induction n with
  | zero => rfl
  | succ n ih => rw [List.replicate_succ, escape_cons, if_neg not_isQuote_backslash, ih]

/-- One more pass puts one more backslash in front of each quote. -/
theorem escape_guardTimes (n : Nat) (t : Text) :
    escape (guardTimes n t) = guardTimes (n + 1) t := by
  induction t with
  | nil => rfl
  | cons c t ih =>
    rw [guardTimes_cons, guardTimes_cons, escape_append, ih]
    by_cases hc : IsQuote c
    -- The new backslash stands right in front of the quote, behind those of earlier passes.
    · have hquote : escape [c] = [backslash] ++ [c] := by
        rw [escape_cons, if_pos hc, escape_nil]
        rfl
      rw [if_pos hc, if_pos hc, escape_append, escape_replicate, hquote, ← List.append_assoc,
        ← List.replicate_succ']
    · rw [if_neg hc, if_neg hc, escape_cons, if_neg hc, escape_nil]

theorem iterate_escape (n : Nat) (t : Text) : escape^[n] t = guardTimes n t := by
  induction n with
  | zero => exact (guardTimes_zero t).symm
  | succ n ih => rw [Function.iterate_succ_apply', ih, escape_guardTimes]

theorem length_guardTimes (n : Nat) (t : Text) :
    (guardTimes n t).length = t.length + n * (t.count apostrophe + t.count doubleQuote) := by
  induction t with
  | nil => simp [guardTimes]
  | cons c t ih =>
    rw [guardTimes_cons, List.length_append, ih]
    by_cases hc : IsQuote c
    · have hone : (c :: t).count apostrophe + (c :: t).count doubleQuote =
          t.count apostrophe + t.count doubleQuote + 1 := by
        have hapart : apostrophe ≠ doubleQuote := by decide
        rcases hc with rfl | rfl
        · rw [List.count_cons_self, List.count_cons_of_ne hapart]
          omega
        · rw [List.count_cons_self, List.count_cons_of_ne hapart.symm]
          omega
      rw [if_pos hc, hone, Nat.mul_add_one, List.length_append, List.length_replicate]
      simp only [List.length_cons, List.length_nil]
      omega
    · obtain ⟨happostrophe, hdouble⟩ := not_or.mp hc
      rw [if_neg hc, List.count_cons_of_ne happostrophe, List.count_cons_of_ne hdouble]
      simp only [List.length_cons, List.length_nil]
      omega

/-- The results of escaping once, twice and so on have one, two and so on backslashes. -/
theorem escapes_eq (t : Text) (n : Nat) :
    escapes t n = (List.range n).map fun k => escape^[k + 1] t := by
  induction n generalizing t with
  | zero => rfl
  | succ n ih =>
    rw [escapes, ih, List.range_succ_eq_map, List.map_cons, List.map_map]
    rfl

/-- Any number of passes puts that many backslashes in front of each quote, and does nothing else.
So the length grows by the number of quotes with each pass, and texts that are escaped equally often
are the same only if they were the same before. -/
theorem iterate_escape_exact (n : Nat) (s : Text) :
    escape^[n] s = guardTimes n s ∧
      (escape^[n] s).length = s.length + n * (s.count apostrophe + s.count doubleQuote) ∧
      (∀ t, escape^[n] s = escape^[n] t ↔ s = t) ∧
      escapes s n = (List.range n).map fun k => guardTimes (k + 1) s := by
  have hinjective : Function.Injective escape := fun _ _ => escape_injective
  refine ⟨iterate_escape n s, ?_, fun t => (hinjective.iterate n).eq_iff, ?_⟩
  · rw [iterate_escape, length_guardTimes]
  · rw [escapes_eq]
    exact List.map_congr_left fun k _ => iterate_escape (k + 1) s

/-- Two passes leave the backslash of the first and put another beside it. -/
example : escape^[2] (lit "it's") = lit "it\\\\'s" := by decide

end Formwright.Text
