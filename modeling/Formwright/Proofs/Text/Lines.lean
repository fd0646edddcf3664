import Formwright.Proofs.Text.Marks
import Formwright.Text.Basic

/-!
A text and its lines. Cutting a text at its line feeds undoes the joining of
lines, however the joined pieces were made up of lines themselves. Readers of a
text go by its lines: what stands between two given lines, the lines up to a
closing one, and the groups of lines that an opening and a closing line enclose.
-/

namespace Formwright.Text

theorem splitAt_ne_nil (mark : CodePoint) (t : Text) : splitAt mark t ≠ [] := by
  cases t with
  | nil => simp [splitAt]
  | cons c rest =>
    simp only [splitAt]
    split
    · simp
    · split <;> simp

/-- A mark between two parts separates the pieces of the one from those of the other. -/
theorem splitAt_append_mark (mark : CodePoint) (s t : Text) :
    splitAt mark (s ++ mark :: t) = splitAt mark s ++ splitAt mark t := by
  induction s with
  | nil => simp [splitAt]
  | cons c s ih =>
    by_cases h : c = mark
    · simp [splitAt, h, ih]
    · simp only [List.cons_append, splitAt, h, if_false, ih]
      cases hs : splitAt mark s with
      | nil => exact absurd hs (splitAt_ne_nil mark s)
      | cons piece pieces => simp

theorem splitAt_of_not_mem {mark : CodePoint} {t : Text} (h : mark ∉ t) :
    splitAt mark t = [t] := by
  induction t with
  | nil => rfl
  | cons c rest ih =>
    have hc : c ≠ mark := fun hc => h (by simp [hc])
    have hrest : mark ∉ rest := fun hrest => h (List.mem_cons_of_mem c hrest)
    simp [splitAt, hc, ih hrest]

theorem toLines_append_newline (s t : Text) :
    toLines (s ++ newline :: t) = toLines s ++ toLines t :=
  splitAt_append_mark newline s t

theorem toLines_of_not_mem {t : Text} (h : newline ∉ t) : toLines t = [t] :=
  splitAt_of_not_mem h

/-- The lines of joined pieces are the lines of the pieces, one after the other. -/
theorem toLines_ofLines_flatMap {pieces : List Text} (h : pieces ≠ []) :
    toLines (ofLines pieces) = pieces.flatMap toLines := by
  induction pieces with
  | nil => exact absurd rfl h
  | cons piece pieces ih =>
    cases pieces with
    | nil => simp [ofLines, joinWith]
    | cons next rest =>
      have hjoin : ofLines (piece :: next :: rest) =
          piece ++ newline :: ofLines (next :: rest) := by
        simp [ofLines, joinWith]
      rw [hjoin, toLines_append_newline, ih (by simp)]
      simp only [List.flatMap_cons]

theorem flatMap_toLines {lines : List Text} (h : ∀ line ∈ lines, newline ∉ line) :
    lines.flatMap toLines = lines := by
  induction lines with
  | nil => rfl
  | cons line lines ih =>
    rw [List.forall_mem_cons] at h
    rw [List.flatMap_cons, toLines_of_not_mem h.1, ih h.2, List.singleton_append]

/-- Lines without line feeds come back from the text that they make. -/
theorem toLines_ofLines {lines : List Text} (h : lines ≠ [])
    (hlines : ∀ line ∈ lines, newline ∉ line) : toLines (ofLines lines) = lines := by
  rw [toLines_ofLines_flatMap h, flatMap_toLines hlines]

/-- The lines of a text make it up again. -/
theorem ofLines_toLines (t : Text) : ofLines (toLines t) = t := by
  induction t with
  | nil => rfl
  | cons c t ih =>
    rw [toLines, ofLines] at ih
    rw [toLines, ofLines]
    cases hpieces : splitAt newline t with
    | nil => exact absurd hpieces (splitAt_ne_nil newline t)
    | cons piece pieces =>
      rw [hpieces] at ih
      by_cases hc : c = newline
      · rw [splitAt, if_pos hc, hpieces, joinWith, ih, hc]
        rfl
      · rw [splitAt, if_neg hc, hpieces]
        cases pieces with
        | nil => exact congrArg (c :: ·) ih
        | cons next rest => exact congrArg (c :: ·) ih

/-- The lines in order, each behind a line feed. -/
def ofLedLines (lines : List Text) : Text :=
  lines.flatMap (newline :: ·)

theorem ofLedLines_append (lines lines' : List Text) :
    ofLedLines (lines ++ lines') = ofLedLines lines ++ ofLedLines lines' :=
  List.flatMap_append

theorem ofLines_cons (line : Text) (lines : List Text) :
    ofLines (line :: lines) = line ++ ofLedLines lines := by
  induction lines generalizing line with
  | nil => simp [ofLines, joinWith, ofLedLines]
  | cons next lines ih =>
    have hjoin : ofLines (line :: next :: lines) = line ++ newline :: ofLines (next :: lines) := by
      simp [ofLines, joinWith]
    rw [hjoin, ih]
    rfl

theorem ofLedLines_eq {lines : List Text} (h : lines ≠ []) :
    ofLedLines lines = newline :: ofLines lines := by
  obtain ⟨line, lines, rfl⟩ := List.exists_cons_of_ne_nil h
  rw [ofLines_cons]
  rfl

/-- Texts of the same lines are the same text. -/
theorem ofLines_injective {lines lines' : List Text} (h : lines ≠ []) (h' : lines' ≠ [])
    (hlines : ∀ line ∈ lines, newline ∉ line) (hlines' : ∀ line ∈ lines', newline ∉ line)
    (heq : ofLines lines = ofLines lines') : lines = lines' := by
  rw [← toLines_ofLines h hlines, heq, toLines_ofLines h' hlines']

/-- The lines between the first occurrence of `opening` and the next of `closing`, if both are
there. -/
def between? (opening closing : Text) : List Text → Option (List Text)
  | [] => none
  | line :: rest =>
    if line = opening then
      if closing ∈ rest then some (rest.takeWhile (· ≠ closing)) else none
    else between? opening closing rest

theorem between?_append {opening closing : Text} {front body : List Text}
    (hfront : opening ∉ front) (hbody : closing ∉ body) (rest : List Text) :
    between? opening closing (front ++ opening :: body ++ closing :: rest) = some body := by
  induction front with
  | nil =>
    have hmem : closing ∈ body ++ closing :: rest := by simp
    simp only [List.nil_append, List.cons_append, between?, if_true, hmem,
      Mark.takeWhile_append hbody]
  | cons line front ih =>
    have hline : line ≠ opening := fun hline => hfront (by simp [hline])
    have hrest : opening ∉ front := fun hrest => hfront (List.mem_cons_of_mem line hrest)
    simp only [List.cons_append, between?, hline, if_false]
    exact ih hrest

/-- The lines up to and including the first occurrence of `closing`, and the lines behind it. -/
def upThrough? (closing : Text) : List Text → Option (List Text × List Text)
  | [] => none
  | line :: rest =>
    if line = closing then some ([line], rest)
    else (upThrough? closing rest).map fun (block, behind) => (line :: block, behind)

theorem upThrough?_append {closing : Text} {front : List Text} (h : closing ∉ front)
    (behind : List Text) :
    upThrough? closing (front ++ closing :: behind) = some (front ++ [closing], behind) := by
  induction front with
  | nil => simp [upThrough?]
  | cons line front ih =>
    have hline : line ≠ closing := fun hline => h (by simp [hline])
    have hfront : closing ∉ front := fun hfront => h (List.mem_cons_of_mem line hfront)
    rw [List.cons_append, upThrough?, if_neg hline, ih hfront]
    rfl

/-- Lines that end with their one occurrence of `closing` are cut off as a whole. -/
theorem upThrough?_of_count {closing : Text} {lines : List Text}
    (hlast : lines.getLast? = some closing) (hcount : lines.count closing = 1)
    (behind : List Text) : upThrough? closing (lines ++ behind) = some (lines, behind) := by
  obtain ⟨front, rfl⟩ := List.getLast?_eq_some_iff.mp hlast
  have hfront : closing ∉ front := by
    rw [List.count_append, List.count_singleton_self] at hcount
    exact List.count_eq_zero.mp (by omega)
  rw [List.append_assoc]
  exact upThrough?_append hfront behind

/-- The groups of lines that `opening` and the next `closing` enclose, in order. In between, lines
of the group that is being read are kept in reverse; a group that is never closed is none. -/
def groupsFrom (opening closing : Text) : Option (List Text) → List Text → List (List Text)
  | _, [] => []
  | none, line :: rest =>
    groupsFrom opening closing (if line = opening then some [] else none) rest
  | some reversed, line :: rest =>
    if line = closing then reversed.reverse :: groupsFrom opening closing none rest
    else groupsFrom opening closing (some (line :: reversed)) rest

def groups (opening closing : Text) (lines : List Text) : List (List Text) :=
  groupsFrom opening closing none lines

theorem groups_append_of_not_mem {opening closing : Text} {front : List Text}
    (h : opening ∉ front) (rest : List Text) :
    groups opening closing (front ++ rest) = groups opening closing rest := by
  induction front with
  | nil => rfl
  | cons line front ih =>
    have hline : line ≠ opening := fun hline => h (by simp [hline])
    have hfront : opening ∉ front := fun hfront => h (List.mem_cons_of_mem line hfront)
    rw [← ih hfront]
    simp [groups, groupsFrom, hline]

theorem groupsFrom_some_append {opening closing : Text} {body : List Text} (h : closing ∉ body)
    (reversed rest : List Text) :
    groupsFrom opening closing (some reversed) (body ++ closing :: rest) =
      (reversed.reverse ++ body) :: groups opening closing rest := by
  induction body generalizing reversed with
  | nil => simp [groupsFrom, groups]
  | cons line body ih =>
    have hline : line ≠ closing := fun hline => h (by simp [hline])
    have hbody : closing ∉ body := fun hbody => h (List.mem_cons_of_mem line hbody)
    simp only [List.cons_append, groupsFrom, hline, if_false]
    rw [ih hbody]
    simp

/-- The first group is what stands in front of the first closing line. -/
theorem groups_cons_append {opening closing : Text} {body : List Text} (h : closing ∉ body)
    (rest : List Text) :
    groups opening closing (opening :: body ++ closing :: rest) =
      body :: groups opening closing rest := by
  have hfirst : groupsFrom opening closing (some []) (body ++ closing :: rest) = _ :=
    groupsFrom_some_append h [] rest
  simpa [groups, groupsFrom] using hfirst

end Formwright.Text
