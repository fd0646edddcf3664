import Formwright.Proofs.Text.Marks
import Formwright.Text.Basic
import Mathlib.Data.List.Basic

/-!
Readers of a single line: what stands between a given beginning and a given end,
and what stands around the last occurrence of a mark.
-/

namespace Formwright.Text

/-- What stands between `before` and `after`, if the line begins and ends with these. -/
def inside? (before after line : Text) : Option Text :=
  (line.dropPrefix? before).bind fun rest => rest.dropSuffix? after

theorem dropPrefix?_append_self (before rest : Text) :
    (before ++ rest).dropPrefix? before = some rest :=
  List.dropPrefix?_append_of_beq rest (beq_self_eq_true before)

theorem dropSuffix?_append_self (rest after : Text) :
    (rest ++ after).dropSuffix? after = some rest :=
  List.dropSuffix?_eq_some_iff.mpr ⟨after, rfl, beq_self_eq_true after⟩

theorem inside?_append (before value after : Text) :
    inside? before after (before ++ value ++ after) = some value := by
  rw [inside?, List.append_assoc, dropPrefix?_append_self]
  exact dropSuffix?_append_self value after

/-- Lines that end otherwise hold nothing. -/
theorem inside?_append_eq_none {before after ending : Text} (line : Text)
    (hlength : ending.length = after.length) (hending : ending ≠ after) :
    inside? before after (line ++ ending) = none := by
  cases hinside : inside? before after (line ++ ending) with
  | none => rfl
  | some value =>
    obtain ⟨rest, hrest, hvalue⟩ := Option.bind_eq_some_iff.mp hinside
    obtain ⟨front, hline, -⟩ := List.dropPrefix?_eq_some_iff.mp hrest
    obtain ⟨after', rfl, hafter⟩ := List.dropSuffix?_eq_some_iff.mp hvalue
    obtain rfl : after' = after := eq_of_beq hafter
    rw [← List.append_assoc] at hline
    exact absurd (List.append_inj_right' hline hlength) hending

theorem dropInfix?_go_append {c : CodePoint} {mark s : Text} (h : c ∉ s) (t passed : Text) :
    List.dropInfix?.go (c :: mark) (s ++ (c :: mark) ++ t) passed =
      some (passed.reverse ++ s, t) := by
  induction s generalizing passed with
  | nil =>
    have hfound := dropPrefix?_append_self (c :: mark) t
    rw [List.cons_append] at hfound
    simp only [List.nil_append, List.cons_append, List.dropInfix?.go, hfound, List.append_nil]
  | cons d s ih =>
    have hd : (d == c) = false := beq_eq_false_iff_ne.mpr fun hd => h (by simp [hd])
    have hs : c ∉ s := fun hs => h (List.mem_cons_of_mem d hs)
    simp only [List.cons_append, List.dropInfix?.go, List.dropPrefix?, hd, Bool.false_eq_true,
      if_false]
    rw [ih hs]
    simp

/-- A part is found where its first sign occurs first. -/
theorem dropInfix?_append {c : CodePoint} {mark s : Text} (h : c ∉ s) (t : Text) :
    (s ++ (c :: mark) ++ t).dropInfix? (c :: mark) = some (s, t) :=
  dropInfix?_go_append h t []

/-- What stands in front of the last `mark` and what stands behind it. -/
def cutLast? (mark : CodePoint) (line : Text) : Option (Text × Text) :=
  match line.reverse.dropWhile (· ≠ mark) with
  | [] => none
  | _ :: front => some (front.reverse, (line.reverse.takeWhile (· ≠ mark)).reverse)

theorem cutLast?_append {mark : CodePoint} (s : Text) {t : Text} (h : mark ∉ t) :
    cutLast? mark (s ++ mark :: t) = some (s, t) := by
  have hreverse : (s ++ mark :: t).reverse = t.reverse ++ mark :: s.reverse := by simp
  have ht : mark ∉ t.reverse := by simpa using h
  rw [cutLast?, hreverse, Mark.dropWhile_append ht, Mark.takeWhile_append ht]
  simp

end Formwright.Text
