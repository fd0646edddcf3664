import Formwright.Proofs.Outcome
import Formwright.Reading.Item

/-!
Lists of descriptors read part by part. Each descriptor is read on its own, and where it
stands shows only in the index that the places of its issues begin with. So a list that is
put together of two is read as both of them are, one after the other, and what is wrong
with the second is told under raised indices.
-/

namespace Formwright

namespace Issue

/-- An issue when so many more descriptors stand in front of its own. -/
def shifted (count : Nat) (issue : Issue) : Issue :=
  match issue.place with
  | .index n :: rest => { issue with place := .index (n + count) :: rest }
  | _ => issue

theorem shifted_within (count index : Nat) (issue : Issue) :
    shifted count (within (.index index) issue) = within (.index (index + count)) issue :=
  rfl

/-- Whether an issue is one with the descriptor at some index below a bound. -/
def IsBelow (bound : Nat) (issue : Issue) : Prop :=
  ∃ n rest, n < bound ∧ issue.place = .index n :: rest

end Issue

/-- A rejection when so many more descriptors stand in front of those that were read. -/
def Rejection.shifted (count : Nat) (r : Rejection) : Rejection :=
  { r with issues := r.issues.map (Issue.shifted count) }

namespace Reading

variable {α β : Type}

theorem both_mapError (f : Issue → Issue) (r : Reading α) (s : Reading β) :
    both (r.mapError (·.map f)) (s.mapError (·.map f)) = (both r s).mapError (·.map f) := by
  cases r with
  | ok a => cases s <;> rfl
  | error issues =>
    cases s with
    | ok b => rfl
    | error later => exact congrArg Except.error List.map_append.symm

/-- What is done to the issues of each reading is done to those of all. -/
theorem all_mapError (f : Issue → Issue) (readings : List (Reading α)) :
    all (readings.map fun r => r.mapError (·.map f)) = (all readings).mapError (·.map f) := by
  induction readings with
  | nil => rfl
  | cons r readings ih =>
    rw [List.map_cons, all, all, ih, both_mapError]
    cases both r (all readings) <;> rfl

/-- Readings one behind the other give the results of both parts or the issues of both. -/
theorem all_append (first second : List (Reading α)) :
    all (first ++ second) = (both (all first) (all second)).map fun (front, back) =>
      front ++ back := by
  induction first with
  | nil =>
    rw [List.nil_append, all]
    cases all second <;> rfl
  | cons r first ih =>
    rw [List.cons_append, all, all, ih]
    cases r with
    | ok a => cases all first <;> cases all second <;> rfl
    | error issues =>
      cases all first with
      | ok front => cases all second <;> rfl
      | error more =>
        cases all second with
        | ok back => rfl
        | error later => exact congrArg Except.error (List.append_assoc issues more later).symm

theorem mem_of_both {r : Reading α} {s : Reading β} {issues : List Issue} {issue : Issue}
    (h : both r s = .error issues) (hissue : issue ∈ issues) :
    (∃ own, r = .error own ∧ issue ∈ own) ∨ ∃ own, s = .error own ∧ issue ∈ own := by
  cases r with
  | ok a =>
    cases s with
    | ok b => cases h
    | error later =>
      cases h
      exact .inr ⟨_, rfl, hissue⟩
  | error own =>
    cases s with
    | ok b =>
      cases h
      exact .inl ⟨_, rfl, hissue⟩
    | error later =>
      cases h
      rcases List.mem_append.mp hissue with hissue | hissue
      · exact .inl ⟨_, rfl, hissue⟩
      · exact .inr ⟨_, rfl, hissue⟩

theorem mem_of_all {readings : List (Reading α)} {issues : List Issue} {issue : Issue}
    (h : all readings = .error issues) (hissue : issue ∈ issues) :
    ∃ r ∈ readings, ∃ own, r = .error own ∧ issue ∈ own := by
  induction readings generalizing issues with
  | nil => cases h
  | cons r readings ih =>
    rw [all, Outcome.map_eq_error] at h
    rcases mem_of_both h hissue with ⟨own, hown, hissue⟩ | ⟨own, hown, hissue⟩
    · exact ⟨r, List.mem_cons_self, own, hown, hissue⟩
    · obtain ⟨r', hr', hothers⟩ := ih hown hissue
      exact ⟨r', List.mem_cons_of_mem r hr', hothers⟩

end Reading

theorem readSourcesFrom_append (index : Nat) (first second : List Source) :
    readSourcesFrom index (first ++ second) =
      readSourcesFrom index first ++ readSourcesFrom (index + first.length) second := by
  induction first generalizing index with
  | nil => rfl
  | cons s first ih =>
    rw [List.cons_append, readSourcesFrom, readSourcesFrom, ih, List.length_cons,
      List.cons_append, Nat.add_assoc, Nat.add_comm 1]

theorem Reading.within_index_add {α : Type} (index count : Nat) (r : Reading α) :
    r.within (.index (index + count)) =
      (r.within (.index index)).mapError (·.map (Issue.shifted count)) := by
  cases r with
  | ok a => rfl
  | error issues =>
    have hissues : issues.map (Issue.within (.index (index + count))) =
        (issues.map (Issue.within (.index index))).map (Issue.shifted count) := by
      rw [List.map_map]
      exact List.map_congr_left fun issue _ => (Issue.shifted_within count index issue).symm
    exact congrArg Except.error hissues

theorem readSourcesFrom_add (index count : Nat) (sources : List Source) :
    readSourcesFrom (index + count) sources =
      (readSourcesFrom index sources).map fun r =>
        r.mapError (·.map (Issue.shifted count)) := by
  induction sources generalizing index with
  | nil => rfl
  | cons s sources ih =>
    rw [readSourcesFrom, readSourcesFrom, List.map_cons, Reading.within_index_add, ← ih,
      Nat.add_right_comm]

theorem isBelow_of_mem_readSourcesFrom {index : Nat} {sources : List Source} {issues : List Issue}
    (h : .error issues ∈ readSourcesFrom index sources) :
    ∀ issue ∈ issues, issue.IsBelow (index + sources.length) := by
  induction sources generalizing index with
  | nil => cases h
  | cons s sources ih =>
    rw [readSourcesFrom] at h
    intro issue hissue
    rcases List.mem_cons.mp h with hs | h
    · obtain ⟨inner, -, rfl⟩ := Outcome.mapError_eq_error.mp hs.symm
      obtain ⟨own, -, rfl⟩ := List.mem_map.mp hissue
      exact ⟨index, own.place, by simp, rfl⟩
    · obtain ⟨n, rest, hn, hplace⟩ := ih h issue hissue
      refine ⟨n, rest, ?_, hplace⟩
      rw [List.length_cons]
      omega

/-- Every issue with a list of descriptors is one with a descriptor in it. -/
theorem isBelow_of_readSources {sources : List Source} {r : Rejection}
    (h : readSources sources = .error r) : ∀ issue ∈ r.issues, issue.IsBelow sources.length := by
  obtain ⟨issues, hissues, rfl⟩ := Outcome.mapError_eq_error.mp h
  intro issue hissue
  obtain ⟨reading, hmem, own, rfl, hown⟩ := Reading.mem_of_all hissues hissue
  have hbelow := isBelow_of_mem_readSourcesFrom hmem issue hown
  rwa [Nat.zero_add] at hbelow

/-- Two lists of descriptors one behind the other give what both give, or what is wrong with the
first and then what is wrong with the second, under indices raised by the length of the first. -/
theorem readSources_append (first second : List Source) :
    readSources (first ++ second) =
        (match readSources first, readSources second with
        | .ok front, .ok back => .ok (front ++ back)
        | .ok _, .error later => .error (later.shifted first.length)
        | .error r, .ok _ => .error r
        | .error r, .error later =>
          .error { r with issues := r.issues ++ (later.shifted first.length).issues }) ∧
      ∀ r, readSources second = .error r → ∀ issue ∈ r.issues, issue.IsBelow second.length := by
  refine ⟨?_, fun r => isBelow_of_readSources⟩
  have hsecond := readSourcesFrom_add 0 first.length second
  rw [readSources, readSources, readSources, readSourcesFrom_append, hsecond, Reading.all_append,
    Reading.all_mapError]
  cases Reading.all (readSourcesFrom 0 first) <;> cases Reading.all (readSourcesFrom 0 second) <;>
    rfl

/-- A number where a descriptor should be, and behind it a record that is kept and a select with a
bad choice and no label. -/
theorem readSources_append_faults :
    ∃ r, readSources
        ([.value (.int 5)] ++
          [.value (.model (.labelledInput ⟨1, lit "A", lit "a", none, true, false⟩)),
            .value (.object [(lit "type", .text (lit "select")), (lit "field", .text (lit "b")),
              (lit "options", .list [.object [(lit "label", .text (lit "B"))]]),
              (lit "id", .int 2)])]) = .error r ∧
      r.issues.map Issue.place =
        [[.index 0, .key (lit "unknown")], [.index 2, .key (lit "select"), .key (lit "label")],
          [.index 2, .key (lit "select"), .key (lit "options"), .index 0, .key (lit "value")]] := by
  obtain ⟨happend, -⟩ := readSources_append [.value (.int 5)]
    [.value (.model (.labelledInput ⟨1, lit "A", lit "a", none, true, false⟩)),
      .value (.object [(lit "type", .text (lit "select")), (lit "field", .text (lit "b")),
        (lit "options", .list [.object [(lit "label", .text (lit "B"))]]), (lit "id", .int 2)])]
  exact ⟨_, happend, rfl⟩

end Formwright
