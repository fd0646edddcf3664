import Formwright.Proofs.Record.Lineage

/-!
What stands under a name in the fields of a record, in the mapping of them, and in
a copy. A field of the mapping is the attribute of that name, with every record in
it as a mapping.
-/

namespace Formwright

section Members

variable {α : Type}

theorem member?_putMember_self (name : Text) (value : α) (members : List (Text × α)) :
    member? name (putMember name value members) = some value := by
  induction members with
  | nil => simp [putMember, member?]
  | cons member members ih =>
    obtain ⟨n, v⟩ := member
    by_cases h : n = name <;> simp [putMember, member?, h, ih]

theorem isSome_member?_iff {name : Text} {members : List (Text × α)} :
    (member? name members).isSome ↔ name ∈ members.map Prod.fst := by
  induction members with
  | nil => simp [member?]
  | cons member members ih =>
    obtain ⟨n, v⟩ := member
    by_cases hname : n = name
    · simp [member?, hname]
    · simp [member?, hname, Ne.symm hname, ih]

theorem member?_append {name : Text} {members : List (Text × α)}
    (h : name ∈ members.map Prod.fst) (others : List (Text × α)) :
    member? name (members ++ others) = member? name members := by
  induction members with
  | nil => cases h
  | cons member members ih =>
    obtain ⟨n, v⟩ := member
    by_cases hname : n = name
    · simp [member?, hname]
    · have htail : name ∈ members.map Prod.fst := (List.mem_cons.mp h).resolve_left (Ne.symm hname)
      simpa [member?, hname] using ih htail

end Members

/-- The attributes of a valid record are its declared fields. -/
theorem Model.names_toFields (m : Model) : m.toFields.map Prod.fst = m.recordClass.fields := by
  induction m with
  | item i =>
    obtain ⟨attributes, control⟩ := i
    cases control <;> rfl
  | derived name m ih => exact ih.trans (List.append_nil _).symm
  | choice | base | optioned | component => rfl

namespace Record

theorem type_of_copy (r : Record) (type : Value) :
    member? (lit "type") (r.copy [(lit "type", type)]).attributes = some type :=
  member?_putMember_self (lit "type") type r.attributes

end Record

end Formwright
