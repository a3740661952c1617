import Mathlib.Data.List.Basic
import SignIn.Proofs.Json.Readings

/-!
# Members in any order

The fields of a record are filled independently of each other, so its members can be told in any
order, and members that belong to no field can be left out.
-/

namespace SignIn.Json

variable {α β δ : Type}

/-- The order of the items does not matter to a fold if any two of them can change places. -/
theorem foldlM_perm {step : β → α → Option β}
    (comm : ∀ before item other, (step before item).bind (fun next => step next other) =
      (step before other).bind fun next => step next item)
    {items others : List α} (perm : items.Perm others) (start : β) :
    items.foldlM step start = others.foldlM step start := by
  rw [List.foldlM_eq_foldl, List.foldlM_eq_foldl]
  refine perm.foldl_eq' (fun item _ other _ before => ?_) _
  cases before with
  | none => rfl
  | some before => exact comm before item other

namespace Record

/-- The values of different fields change a draft independently of each other. -/
structure Independent (record : Record δ α) (filling : String → Tree → Option (δ → δ)) :
    Prop where
  /-- A field that has been filled is filled. -/
  fills : ∀ field ∈ record.fields, ∀ tree change, filling field.name tree = some change →
    ∀ draft, field.filled (change draft) = true
  /-- Filling one field leaves the others as they are. -/
  keeps : ∀ field ∈ record.fields, ∀ other ∈ record.fields, field.name ≠ other.name →
    ∀ tree change, filling field.name tree = some change →
      ∀ draft, other.filled (change draft) = other.filled draft
  /-- Two fields can be filled in either order. -/
  comm : ∀ field ∈ record.fields, ∀ other ∈ record.fields, field.name ≠ other.name →
    ∀ tree change, filling field.name tree = some change →
      ∀ later next, filling other.name later = some next →
        ∀ draft, next (change draft) = change (next draft)

variable {record : Record δ α} {filling : String → Tree → Option (δ → δ)}

/-- A name belongs to no field of a record. -/
def Foreign (record : Record δ α) (name : String) : Prop :=
  ∀ field ∈ record.fields, field.name ≠ name

theorem foreign_iff {name : String} :
    record.Foreign name ↔ name ∉ record.fields.map Field.name := by
  simp [Foreign]

theorem step_passed {member : String × Tree}
    (missed : record.fields.find? (fun field => field.name == member.1) = none) (draft : δ) :
    record.step filling draft member = some draft := by
  rw [step, missed]

theorem step_foreign {member : String × Tree} (foreign : record.Foreign member.1) (draft : δ) :
    record.step filling draft member = some draft :=
  step_passed (List.find?_eq_none.2 fun field inside => by simpa using foreign field inside) draft

theorem step_field {member : String × Tree} {field : Field δ}
    (found : record.fields.find? (fun field => field.name == member.1) = some field)
    (draft : δ) :
    record.step filling draft member =
      if field.filled draft then none
      else (filling field.name member.2).map fun change => change draft := by
  rw [step, found]

/-- Members that belong to no field change nothing. -/
theorem foldlM_foreign {members : List (String × Tree)}
    (foreign : ∀ member ∈ members, record.Foreign member.1) (draft : δ) :
    members.foldlM (record.step filling) draft = some draft := by
  induction members with
  | nil => rfl
  | cons member members ih =>
    obtain ⟨first, later⟩ := List.forall_mem_cons.1 foreign
    rw [List.foldlM_cons, step_foreign first]
    exact ih later

/-- Only members that belong to a field matter. -/
theorem foldlM_filter {known : String → Bool}
    (foreign : ∀ name, known name = false → record.Foreign name)
    (members : List (String × Tree)) (draft : δ) :
    members.foldlM (record.step filling) draft =
      (members.filter fun member => known member.1).foldlM (record.step filling) draft := by
  rw [List.foldlM_filter]
  congr
  funext draft member
  cases told : known member.1 with
  | true => rfl
  | false => exact step_foreign (foreign member.1 told) draft

namespace Independent

variable {member other : String × Tree} {field second : Field δ}

/-- Two members of different fields change a draft one after the other, unless one of the fields
has been filled before. -/
theorem step_step (independent : record.Independent filling)
    (found : record.fields.find? (fun field => field.name == member.1) = some field)
    (other_found : record.fields.find? (fun field => field.name == other.1) = some second)
    (differ : member.1 ≠ other.1) (draft : δ) :
    (record.step filling draft member).bind (fun next => record.step filling next other) =
      if field.filled draft || second.filled draft then none
      else (filling field.name member.2).bind fun change =>
        (filling second.name other.2).map fun next => next (change draft) := by
  obtain ⟨inside, name_eq⟩ := found_spec found
  obtain ⟨other_inside, other_name_eq⟩ := found_spec other_found
  rw [step_field found]
  cases full : field.filled draft with
  | true => rfl
  | false =>
    rw [if_neg Bool.false_ne_true, Bool.false_or]
    cases filled : filling field.name member.2 with
    | none => rw [Option.map_none, Option.bind_none, Option.bind_none, ite_self]
    | some change =>
      have kept : second.filled (change draft) = second.filled draft :=
        independent.keeps field inside second other_inside (by rwa [name_eq, other_name_eq])
          member.2 change filled draft
      rw [Option.map_some, Option.bind_some, Option.bind_some, step_field other_found, kept]

/-- Two values of different fields change a draft alike in both orders. -/
theorem changes_comm (independent : record.Independent filling) (inside : field ∈ record.fields)
    (other_inside : second ∈ record.fields) (differ : field.name ≠ second.name) (draft : δ)
    (tree later : Tree) :
    ((filling field.name tree).bind fun change =>
        (filling second.name later).map fun next => next (change draft)) =
      (filling second.name later).bind fun change =>
        (filling field.name tree).map fun next => next (change draft) := by
  cases filled : filling field.name tree with
  | none => cases filling second.name later <;> rfl
  | some change =>
    cases other_filled : filling second.name later with
    | none => rfl
    | some next =>
      exact congrArg some (independent.comm field inside second other_inside differ tree change
        filled later next other_filled draft)

/-- A field that has been filled refuses a second member. -/
theorem step_twice (independent : record.Independent filling)
    (found : record.fields.find? (fun field => field.name == member.1) = some field)
    (same : member.1 = other.1) (draft : δ) :
    (record.step filling draft member).bind (fun next => record.step filling next other) =
      none := by
  rw [step_field found]
  cases full : field.filled draft with
  | true => rfl
  | false =>
    rw [if_neg Bool.false_ne_true]
    cases filled : filling field.name member.2 with
    | none => rfl
    | some change =>
      have now_full : field.filled (change draft) = true :=
        independent.fills field (found_spec found).1 member.2 change filled draft
      rw [same] at found
      rw [Option.map_some, Option.bind_some, step_field found, if_pos now_full]

/-- Any two members can change places. -/
theorem step_comm (independent : record.Independent filling) (draft : δ)
    (member other : String × Tree) :
    (record.step filling draft member).bind (fun next => record.step filling next other) =
      (record.step filling draft other).bind fun next => record.step filling next member := by
  -- A member of no field changes nothing, two of one field refuse each other in either order, and
  -- two of different fields go past each other.
  cases found : record.fields.find? fun field => field.name == member.1 with
  | none => simp only [step_passed found, Option.bind_some, Option.bind_fun_some]
  | some field =>
    cases other_found : record.fields.find? fun field => field.name == other.1 with
    | none => simp only [step_passed other_found, Option.bind_some, Option.bind_fun_some]
    | some second =>
      by_cases same : member.1 = other.1
      · rw [independent.step_twice found same, independent.step_twice other_found same.symm]
      · obtain ⟨inside, name_eq⟩ := found_spec found
        obtain ⟨other_inside, other_name_eq⟩ := found_spec other_found
        rw [independent.step_step found other_found same,
          independent.step_step other_found found (Ne.symm same),
          independent.changes_comm inside other_inside (by rwa [name_eq, other_name_eq]),
          Bool.or_comm]

/-- Members can be told in any order, and among others that belong to no field. -/
theorem foldlM_eq (independent : record.Independent filling)
    {members known unknown : List (String × Tree)} (perm : members.Perm (known ++ unknown))
    (foreign : ∀ member ∈ unknown, record.Foreign member.1) (draft : δ) :
    members.foldlM (record.step filling) draft = known.foldlM (record.step filling) draft := by
  rw [foldlM_perm independent.step_comm perm, List.foldlM_append]
  cases known.foldlM (record.step filling) draft with
  | none => rfl
  | some filled => exact foldlM_foreign foreign filled

end Independent

end Record

end SignIn.Json
