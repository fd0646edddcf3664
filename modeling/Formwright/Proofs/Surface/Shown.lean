import Formwright.Proofs.Reading.Integers
import Formwright.Proofs.Surface.Answer

/-!
What the playground page shows. A text that is not nested past the limit leads to a page, and
the page tells whether its descriptors are accepted; with one exception. An integer of more
digits than the limit allows ends the run while the text is read, where the text tool reports
it. No later step fails: the integers that are read can be written again.
-/

namespace Formwright

/-- Whether a page tells what became of a document: the component of its descriptors under their
number, or a marked message alone. -/
structure Page.Tells (document : Text) (page : Page) : Prop where
  empty_iff : (∀ t ∈ page.texts.tail, t = []) ↔ ¬ Tool.Accepts document
  accepted : Tool.Accepts document → ∃ documents, Json.read document = .ok (.array documents) ∧
    page.status =
      lit "## ✅ Generated component with " ++ Text.ofNat documents.length ++ lit " fields"
  refused : ¬ Tool.Accepts document → Page.crossMark <+: page.status

theorem CodePoint.not_isBlank_of_isDigit {c : CodePoint} (h : c.isDigit) : c.isBlank = false := by
  have hvalue : 48 ≤ c.value ∧ c.value ≤ 57 := by
    rw [isDigit, digit?] at h
    split at h
    · assumption
    · cases h
  rw [Bool.eq_false_iff]
  intro hblank
  simp only [isBlank, isWhiteSpace, Bool.or_eq_true, Bool.and_eq_true,
    decide_eq_true_eq, beq_iff_eq] at hblank
  omega

theorem Component.singleFile_ne_nil (c : Component) : c.singleFile ≠ [] := by
  rw [Component.singleFile, Component.joinBlocks]
  simp

namespace Page

variable {document message : Text} {documents : List Json} {parsed : List Parsed} {c : Component}

theorem tells_report (h : ¬ Tool.Accepts document) : (report message).Tells document where
  empty_iff := iff_of_true (by simp [report, texts]) h
  accepted haccepts := absurd haccepts h
  refused _ := List.prefix_append crossMark message

theorem tells_ofComponent (hread : Json.read document = .ok (.array documents))
    (hparsed : readDescriptors (valuesOfJson documents) = .ok parsed) :
    (ofComponent documents.length c).Tells document := by
  have haccepts : Tool.Accepts document := ⟨documents, parsed, hread, hparsed⟩
  constructor
  case empty_iff =>
    refine iff_of_false ?_ (not_not_intro haccepts)
    intro hempty
    exact c.singleFile_ne_nil (hempty c.singleFile (by simp [ofComponent, texts]))
  case accepted => exact fun _ => ⟨documents, hread, rfl⟩
  case refused => exact absurd haccepts

end Page

namespace Playground

variable {document : Text}

/-- Descriptors that can be read are shown or refused, and nothing else. -/
theorem run_tells_of_array {documents : List Json}
    (hread : Json.read document = .ok (.array documents)) (includeStyle : Bool) :
    ∃ page, run document includeStyle = .ok page ∧ page.Tells document := by
  rw [run_eq hread]
  cases hparsed : readDescriptors (valuesOfJson documents) with
  | error r =>
    rw [Descriptors.component_of_rejected hparsed]
    exact ⟨_, rfl, Page.tells_report (Tool.not_accepts_of_rejected hread hparsed)⟩
  | ok parsed =>
    obtain ⟨items, rfl, hdescribes⟩ := exists_describes hparsed
    have hbuilt := Component.exists_build_iff_of_describes hdescribes includeStyle
    obtain ⟨c, hc⟩ := hbuilt.mpr (hdescribes.numbersFit hread)
    rw [Descriptors.component_of_describes hdescribes hc]
    exact ⟨_, rfl, Page.tells_ofComponent hread hparsed⟩

/-- A run that only reports tells all there is to tell of a text that spells no array. -/
theorem run_tells_of_report {includeStyle : Bool} {message : Text}
    (hrun : run document includeStyle = .ok (.report message))
    (hno : ∀ documents, Json.read document ≠ .ok (.array documents)) :
    ∃ page, run document includeStyle = .ok page ∧ page.Tells document :=
  ⟨_, hrun, Page.tells_report (Tool.not_accepts_of_not_array hno)⟩

theorem run_tells_of_not_array {j : Json} (hblank : document.isBlank = false)
    (hread : Json.read document = .ok j) (hj : ∀ documents, j ≠ .array documents)
    (includeStyle : Bool) : ∃ page, run document includeStyle = .ok page ∧ page.Tells document := by
  have hrun : run document includeStyle = .ok (.report Tool.notArrayMessage) := by
    rw [run, hblank, hread]
    cases j with
    | array documents => exact absurd rfl (hj documents)
    | null | bool | int | float | text | object => rfl
  apply run_tells_of_report hrun
  intro documents hdocuments
  exact hj documents (Except.ok.inj (hread.symm.trans hdocuments))

theorem run_tells_of_malformed {complaint : Json.Complaint} {text : Text} {position : Nat}
    (hblank : document.isBlank = false)
    (hread : Json.read document = .error (.malformed complaint text position))
    (includeStyle : Bool) : ∃ page, run document includeStyle = .ok page ∧ page.Tells document := by
  have hrun : run document includeStyle = .ok (.report (lit "Invalid JSON: " ++
      (Json.ReadError.malformed complaint text position).message)) := by
    rw [run, hblank, hread]
    rfl
  apply run_tells_of_report hrun
  intro documents hdocuments
  cases hread.symm.trans hdocuments

/-- A text that is not nested past the limit leads to a page that tells what became of it, unless
an integer of more digits than the limit allows stands in it and ends the run. -/
theorem run_tells_or_tooLong
    (hnesting : document.nesting ≤ Json.Limits.usual.nesting) (includeStyle : Bool) :
    (∃ page, run document includeStyle = .ok page ∧ page.Tells document) ∨
      ∃ digits, Json.HoldsNumeral .usual digits document ∧
        Json.read document = .error (.numeralTooLong digits) ∧
        run document includeStyle = .error (.unreadable (.numeralTooLong digits)) := by
  cases hblank : document.isBlank with
  | true =>
    refine .inl (run_tells_of_report (if_pos hblank) fun documents hread => ?_)
    rw [Json.not_isBlank_of_read hread] at hblank
    cases hblank
  | false =>
    cases hread : Json.read document with
    | ok j =>
      cases j with
      | array documents => exact .inl (run_tells_of_array hread includeStyle)
      | null | bool | int | float | text | object =>
        exact .inl (run_tells_of_not_array hblank hread (fun _ h => by cases h) includeStyle)
    | error e =>
      cases e with
      | malformed complaint text position =>
        exact .inl (run_tells_of_malformed hblank hread includeStyle)
      | numeralTooLong digits =>
        refine .inr ⟨digits, Json.holdsNumeral_of_readWithin hread, rfl, ?_⟩
        rw [run, hblank, hread]
        rfl
      | tooDeep => exact absurd hread (Json.readWithin_ne_tooDeep hnesting)

/-- A number and a text that is half of a surrogate pair where descriptors should be. -/
def strayDocument : Text :=
  lit "[5, \"" ++ .surrogate 5 :: lit "\"]"

theorem run_tells_stray :
    strayDocument.nesting ≤ Json.Limits.usual.nesting ∧
      ∃ page, run strayDocument false = .ok page ∧ page.Tells strayDocument ∧
        Page.crossMark <+: page.status := by
  have hnesting : strayDocument.nesting ≤ Json.Limits.usual.nesting := by decide +kernel
  have hread : Json.read strayDocument = .ok (.array [.int 5, .text [.surrogate 5]]) := by
    cbv
  have hrefused : ¬ Tool.Accepts strayDocument := Tool.not_accepts_of_rejected hread rfl
  refine ⟨hnesting, ?_⟩
  rcases run_tells_or_tooLong hnesting false with ⟨page, hrun, htells⟩ | ⟨digits, -, htooLong, -⟩
  · exact ⟨page, hrun, htells, htells.refused hrefused⟩
  · rw [hread] at htooLong
    cases htooLong

/-- A text of digits past the limit ends the run. -/
theorem run_of_digits (hdigits : ∀ c ∈ document, c.isDigit)
    (hzero : document.head? ≠ some (.scalar '0')) (hlong : Numeral.digitLimit < document.length)
    (includeStyle : Bool) :
    run document includeStyle = .error (.unreadable (.numeralTooLong document.length)) := by
  have hread : Json.read document = .error (.numeralTooLong document.length) :=
    Json.readWithin_of_digits hdigits hzero hlong
  have hblank : document.isBlank = false := by
    obtain ⟨c, hc⟩ := List.exists_mem_of_length_pos (Nat.zero_lt_of_lt hlong)
    rw [Text.isBlank, List.all_eq_false]
    exact ⟨c, hc, by simp [CodePoint.not_isBlank_of_isDigit (hdigits c hc)]⟩
  rw [run, hblank, hread]
  rfl

/-- An integer of one digit more than the limit where descriptors should be: nothing is nested, and
there is no page. -/
theorem run_fails_tooLong :
    Text.nesting (List.replicate 4301 (.scalar '1')) ≤ Json.Limits.usual.nesting ∧
      ¬ ∃ page, run (List.replicate 4301 (.scalar '1')) true = .ok page := by
  have hone : ∀ c ∈ List.replicate 4301 (CodePoint.scalar '1'), c = .scalar '1' :=
    fun c => List.eq_of_mem_replicate
  constructor
  · have hpasses : Text.Passes (List.replicate 4301 (.scalar '1')) [] := by
      refine ⟨_, (List.append_nil _).symm, fun c hc => ?_⟩
      rw [hone c hc]
      decide
    rw [Text.nesting, Text.nestingFrom_passes hpasses]
    exact Nat.zero_le _
  · have hdigits : ∀ c ∈ List.replicate 4301 (CodePoint.scalar '1'), c.isDigit := by
      intro c hc
      rw [hone c hc]
      rfl
    have hlong : Numeral.digitLimit < (List.replicate 4301 (CodePoint.scalar '1')).length := by
      rw [List.length_replicate]
      decide
    rw [run_of_digits hdigits (by rw [List.head?_replicate]; decide) hlong]
    rintro ⟨page, hpage⟩
    cases hpage

end Playground

end Formwright
