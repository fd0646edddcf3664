import Formwright.Proofs.Value.Literal
import Formwright.Reading.Issue

/-!
Reports of what is wrong with decoded documents. A report is settled: places and
causes are fixed text but for class names and the names of kinds, and the value an
issue was found in is shown in its literal form, cut in the middle when it is long.
-/

namespace Formwright

open Text (IsSettled IsClosed isScalar_lit isClosed_lit)

namespace Text

theorem IsSettled.of_infix {s t : Text} (h : t.IsSettled) (hpart : s <:+: t) : s.IsSettled :=
  List.IsChain.infix h hpart

theorem IsSettled.isClosed_append {s t : Text} (hs : s.IsSettled) (ht : t.IsScalar) (hne : t ≠ []) :
    IsClosed (s ++ t) where
  settled := hs.append_isScalar ht
  ending c hc := by
    rw [List.getLast?_append_of_ne_nil _ hne] at hc
    exact CodePoint.isHighHalf_of_isScalar (ht c (List.mem_of_getLast? hc))

end Text

namespace Cause

/-- Whether the text that a cause brings along, if it does, may stand in a report. -/
def IsNamed : Cause → Prop
  | notRecord className => className.IsScalar
  | otherLiteral expected => expected.IsScalar
  | _ => True

theorem isScalar_code (cause : Cause) : cause.code.IsScalar := by
  cases cause <;> exact isScalar_lit _

theorem IsNamed.isClosed_message {cause : Cause} (h : cause.IsNamed) : cause.message.IsClosed := by
  cases cause with
  | notRecord className => exact (isClosed_lit _).append (Text.IsScalar.isClosed h)
  | otherLiteral expected => exact (isClosed_lit _).append (Text.IsScalar.isSettled h).quoted
  | _ => exact isClosed_lit _

end Cause

namespace Issue

/-- Whether an issue is one with a part of a decoded document. -/
structure IsDecoded (issue : Issue) : Prop where
  place : ∀ step ∈ issue.place, step.written.IsScalar
  cause : issue.cause.IsNamed
  input : issue.input.IsDecoded

theorem isClosed_shown {v : Value} (h : v.IsDecoded) : (shown v).IsClosed := by
  obtain ⟨t, ht, hclosed⟩ := h.isShown
  rw [shown, ht]
  exact hclosed

theorem isSettled_abridged {t : Text} (h : t.IsSettled) : (abridged t).IsSettled := by
  rw [abridged]
  split
  · exact h
  · have hfront := h.of_infix (Text.takeUtf8_prefix 25 t).isInfix
    have hend := h.of_infix (Text.takeEndUtf8_suffix 24 t).isInfix
    have hdots : lit "..." ≠ [] := by decide
    exact (hfront.isClosed_append (isScalar_lit "...") hdots).append_isSettled hend

theorem IsDecoded.isClosed_report {issue : Issue} (h : issue.IsDecoded) :
    ∀ line ∈ issue.report, line.IsClosed := by
  have hplace : IsClosed (Text.joinWith (lit ".") (issue.place.map Step.written)) := by
    apply Text.IsScalar.isClosed
    apply Text.isScalar_joinWith (isScalar_lit ".")
    rw [List.forall_mem_map]
    exact h.place
  have hcode := issue.cause.isScalar_code
  have hinput := isSettled_abridged (isClosed_shown h.input).settled
  have hclosing : lit "]" ≠ [] := by decide
  simp only [report, List.forall_mem_cons]
  refine ⟨hplace, ?_, (isClosed_lit _).append hcode.isClosed, by simp⟩
  have hcause := ((isClosed_lit "  ").append h.cause.isClosed_message).append
    (isClosed_lit " [type=")
  have hfront := (hcause.append hcode.isClosed).append (isClosed_lit ", input_value=")
  have hvalue := (hfront.append_isSettled hinput).append_isScalar (isScalar_lit ", input_type=")
  have htype := hvalue.append_isScalar h.input.isScalar_typeName
  exact htype.isClosed_append (isScalar_lit "]") hclosing

end Issue

/-- The report of issues with decoded documents is settled. -/
theorem Rejection.isSettled_report {r : Rejection} (htitle : r.title.IsScalar)
    (hissues : ∀ issue ∈ r.issues, issue.IsDecoded) : r.report.IsSettled := by
  have hheadline : r.headline.IsClosed := by
    apply Text.IsScalar.isClosed
    apply Text.IsScalar.append _ htitle
    apply Text.IsScalar.append (Text.isScalar_ofNat _)
    split <;> exact isScalar_lit _
  apply Text.IsClosed.settled
  apply Text.isClosed_ofLines
  simp only [List.forall_mem_cons, List.mem_flatMap]
  refine ⟨hheadline, ?_⟩
  rintro line ⟨issue, hissue, hline⟩
  exact (hissues issue hissue).isClosed_report line hline

end Formwright
