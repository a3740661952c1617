import SignIn.Header
import SignIn.Proofs.Dictionary

/-!
# Headers by name

The headers of a head are its lines grouped by name: every line adds one value behind those that its
name has already, and touches no other name.
-/

namespace SignIn

universe u

namespace Headers

/-- The values that named values have for one name, in order. -/
def valuesOf (name : String) (pairs : List (String × String)) : List String :=
  (pairs.filter fun pair => pair.1 == name).map (·.2)

theorem valuesOf_append (name : String) (front back : List (String × String)) :
    valuesOf name (front ++ back) = valuesOf name front ++ valuesOf name back := by
  simp [valuesOf]

theorem valuesOf_map_of_one_name {α : Type u} (name other : String) (shown : α → String)
    (items : List α) :
    valuesOf name (items.map fun item => (other, shown item)) =
      if other = name then items.map shown else [] := by
  rw [valuesOf, List.filter_map, List.map_map]
  by_cases same : other = name
  · rw [if_pos same, List.filter_eq_self.2 (by simp [same])]
    rfl
  · rw [if_neg same, List.filter_eq_nil_iff.2 (by simp [same])]
    rfl

/-- Headers to which named values are added in order. -/
def addAll (headers : Headers) (pairs : List (String × String)) : Headers :=
  pairs.foldl (fun headers pair => headers.add pair.1 pair.2) headers

/-- Lines add what they say, up to the first one that cannot be read. -/
theorem foldlM_addLine (lines : List String) (headers : Headers) :
    lines.foldlM addLine headers =
      match lines.find? fun line => (readLine? line).isNone with
      | some line => .error (.malformedMessage ("invalid header: " ++ line))
      | none => .ok (headers.addAll (lines.filterMap readLine?)) := by
  induction lines generalizing headers with
  | nil => rfl
  | cons line lines ih =>
    rw [List.foldlM_cons, addLine]
    cases read_eq : readLine? line with
    | none =>
      rw [List.find?_cons_of_pos (by simp [read_eq])]
      rfl
    | some pair =>
      rw [List.find?_cons_of_neg (by simp [read_eq]), List.filterMap_cons_some read_eq]
      exact ih _

theorem getD_add (headers : Headers) (name value key : String) :
    ((headers.add name value).values.get? key).getD [] =
      (headers.values.get? key).getD [] ++ if name = key then [value] else [] := by
  rw [add, Dictionary.get?_alter]
  by_cases same : name = key
  · subst same
    simp
  · simp [same]

/-- The values of a name are those that it had, and then those that are added for it. -/
theorem getD_addAll (headers : Headers) (pairs : List (String × String)) (key : String) :
    ((headers.addAll pairs).values.get? key).getD [] =
      (headers.values.get? key).getD [] ++ valuesOf key pairs := by
  induction pairs generalizing headers with
  | nil => simp [addAll, valuesOf]
  | cons pair pairs ih =>
    have step := ih (headers.add pair.1 pair.2)
    rw [getD_add] at step
    calc ((headers.addAll (pair :: pairs)).values.get? key).getD []
        = ((headers.values.get? key).getD [] ++ if pair.1 = key then [pair.2] else []) ++
            valuesOf key pairs := step
      _ = (headers.values.get? key).getD [] ++ valuesOf key (pair :: pairs) := by
        rw [List.append_assoc]
        congr 1
        by_cases same : pair.1 = key <;> simp [valuesOf, same]

theorem mem_names_addAll {headers : Headers} {pairs : List (String × String)} {name : String} :
    name ∈ (headers.addAll pairs).names ↔ name ∈ headers.names ∨ name ∈ pairs.map (·.1) := by
  induction pairs generalizing headers with
  | nil => simp [addAll]
  | cons pair pairs ih =>
    have step := @ih (headers.add pair.1 pair.2)
    have added : name ∈ (headers.add pair.1 pair.2).names ↔ name = pair.1 ∨ name ∈ headers.names :=
      Dictionary.mem_keys_alter
    rw [added] at step
    rw [List.map_cons, List.mem_cons]
    constructor
    · intro member
      rcases step.1 member with (same | before) | later
      · exact .inr (.inl same)
      · exact .inl before
      · exact .inr (.inr later)
    · rintro (before | same | later)
      · exact step.2 (.inl (.inr before))
      · exact step.2 (.inl (.inl same))
      · exact step.2 (.inr later)

theorem mem_names_addAll_empty {pairs : List (String × String)} {name : String} :
    name ∈ (empty.addAll pairs).names ↔ name ∈ pairs.map (·.1) := by
  have no_names : name ∉ empty.names := by simp [empty, names, Dictionary.keys, Dictionary.empty]
  rw [mem_names_addAll]
  simp [no_names]

/-- A head whose lines can be read has the values of each name in the order of the lines, and no
names but theirs. -/
theorem ofHead_of_readable (first : String) {lines : List String}
    (readable : ∀ line ∈ lines, readLine? line ≠ none) :
    ∃ headers, ofHead (first :: lines) = .ok headers ∧
      (∀ name, name ∈ headers.names ↔ name ∈ (lines.filterMap readLine?).map (·.1)) ∧
      ∀ name, headers.get name = valuesOf (Text.lowerCase name) (lines.filterMap readLine?) := by
  have all_read : lines.find? (fun line => (readLine? line).isNone) = none := by
    simpa using readable
  have read_eq : ofHead (first :: lines) = .ok (empty.addAll (lines.filterMap readLine?)) := by
    rw [ofHead, foldlM_addLine, all_read]
  refine ⟨_, read_eq, fun name => ?_, fun name => ?_⟩
  · exact mem_names_addAll_empty
  · rw [get, getD_addAll]
    simp [empty]

end Headers

end SignIn
