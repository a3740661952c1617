/-!
# Dictionaries

Finite maps from strings, kept in ascending order of the keys.  The order is part of the type, so
two dictionaries with the same look-ups are equal and every listing comes out sorted.
-/

namespace SignIn

universe u

/-- A finite map from strings as a list of entries in strictly ascending order of the keys. -/
structure Dictionary (α : Type u) where
  /-- The keys with their values, in order. -/
  entries : List (String × α)
  /-- Keys ascend. -/
  ascending : entries.Pairwise fun before after => before.1 < after.1

namespace Dictionary

variable {α : Type u}

/-- Change the value of one key in an ordered list of entries, or add the key in its place. -/
def alterEntries (key : String) (change : Option α → α) : List (String × α) → List (String × α)
  | [] => [(key, change none)]
  | (name, value) :: rest =>
    if key < name then (key, change none) :: (name, value) :: rest
    else if name < key then (name, value) :: alterEntries key change rest
    else (name, change (some value)) :: rest

theorem mem_keys_alterEntries {key name : String} {change : Option α → α}
    {entries : List (String × α)} :
    name ∈ (alterEntries key change entries).map (·.1) ↔
      name = key ∨ name ∈ entries.map (·.1) := by
  fun_induction alterEntries key change entries with
  | case1 => simp
  | case2 => simp
  | case3 other value rest below above ih =>
    simp only [List.map_cons, List.mem_cons, ih]
    grind
  | case4 other value rest below above =>
    have same : other = key := by grind
    simp [same]

theorem alterEntries_ascending {key : String} {change : Option α → α}
    {entries : List (String × α)}
    (ascending : entries.Pairwise fun before after => before.1 < after.1) :
    (alterEntries key change entries).Pairwise fun before after => before.1 < after.1 := by
  fun_induction alterEntries key change entries with
  | case1 => simp
  | case2 name value rest below =>
    refine List.pairwise_cons.2 ⟨fun entry member => ?_, ascending⟩
    rcases List.mem_cons.1 member with rfl | later
    · exact below
    · exact String.lt_trans below ((List.pairwise_cons.1 ascending).1 entry later)
  | case3 name value rest below above ih =>
    have parts := List.pairwise_cons.1 ascending
    refine List.pairwise_cons.2 ⟨fun entry member => ?_, ih parts.2⟩
    have listed := mem_keys_alterEntries.1 (List.mem_map.2 ⟨entry, member, rfl⟩)
    rcases listed with same | earlier
    · simpa [same] using above
    · obtain ⟨old, oldMember, sameKey⟩ := List.mem_map.1 earlier
      have := parts.1 old oldMember
      simpa [sameKey] using this
  | case4 name value rest below above =>
    have parts := List.pairwise_cons.1 ascending
    exact List.pairwise_cons.2 ⟨fun entry member => parts.1 entry member, parts.2⟩

/-- The dictionary without entries. -/
def empty : Dictionary α := ⟨[], List.Pairwise.nil⟩

/-- Change the value of one key, or add it. -/
def alter (dictionary : Dictionary α) (key : String) (change : Option α → α) : Dictionary α :=
  ⟨alterEntries key change dictionary.entries, alterEntries_ascending dictionary.ascending⟩

/-- Set the value of one key. -/
def insert (dictionary : Dictionary α) (key : String) (value : α) : Dictionary α :=
  dictionary.alter key fun _ => value

/-- The dictionary of a list of pairs, in which the last pair of a key counts. -/
def ofList (pairs : List (String × α)) : Dictionary α :=
  pairs.foldl (fun dictionary pair => dictionary.insert pair.1 pair.2) empty

/-- The value of a key in a list of entries. -/
def lookUp? (key : String) (entries : List (String × α)) : Option α :=
  (entries.find? fun entry => entry.1 == key).map (·.2)

theorem lookUp?_cons {key name : String} {value : α} {rest : List (String × α)} :
    lookUp? key ((name, value) :: rest) = if name = key then some value else lookUp? key rest := by
  by_cases same : name = key <;> simp [lookUp?, same]

theorem lookUp?_eq_none_of_below {key : String} {entries : List (String × α)}
    (below : ∀ entry ∈ entries, key < entry.1) : lookUp? key entries = none := by
  simp only [lookUp?, Option.map_eq_none_iff, List.find?_eq_none, beq_iff_eq]
  rintro entry member rfl
  exact String.lt_irrefl _ (below entry member)

/-- Changing a key changes what it is looked up as, and nothing else. -/
theorem lookUp?_alterEntries {key : String} {change : Option α → α}
    {entries : List (String × α)}
    (ascending : entries.Pairwise fun before after => before.1 < after.1) (name : String) :
    lookUp? name (alterEntries key change entries) =
      if key = name then some (change (lookUp? key entries)) else lookUp? name entries := by
  fun_induction alterEntries key change entries with
  | case1 => simp [lookUp?]
  | case2 first value rest below =>
    have absent : lookUp? key ((first, value) :: rest) = none := by
      refine lookUp?_eq_none_of_below fun entry member => ?_
      rcases List.mem_cons.1 member with rfl | later
      · exact below
      · exact String.lt_trans below ((List.pairwise_cons.1 ascending).1 entry later)
    rw [lookUp?_cons, absent]
  | case3 first value rest below above ih =>
    have different : first ≠ key := fun same => String.lt_irrefl _ (same ▸ above)
    rw [lookUp?_cons, ih (List.pairwise_cons.1 ascending).2, lookUp?_cons, lookUp?_cons,
      if_neg different]
    by_cases same : key = name
    · subst same
      simp [different]
    · simp [same]
  | case4 first value rest below above =>
    have same : first = key := by grind
    subst same
    rw [lookUp?_cons, lookUp?_cons, lookUp?_cons]
    by_cases same : first = name <;> simp [same]

/-- The value of a key. -/
def get? (dictionary : Dictionary α) (key : String) : Option α :=
  lookUp? key dictionary.entries

@[simp]
theorem get?_alter (dictionary : Dictionary α) (key : String) (change : Option α → α)
    (name : String) :
    (dictionary.alter key change).get? name =
      if key = name then some (change (dictionary.get? key)) else dictionary.get? name :=
  lookUp?_alterEntries dictionary.ascending name

@[simp]
theorem get?_insert (dictionary : Dictionary α) (key : String) (value : α) (name : String) :
    (dictionary.insert key value).get? name =
      if key = name then some value else dictionary.get? name :=
  get?_alter dictionary key _ name

@[simp]
theorem get?_empty (name : String) : (empty : Dictionary α).get? name = none := rfl

/-- Whether a key has a value. -/
def contains (dictionary : Dictionary α) (key : String) : Bool :=
  (dictionary.get? key).isSome

/-- The keys in ascending order. -/
def keys (dictionary : Dictionary α) : List String :=
  dictionary.entries.map (·.1)

/-- The number of keys. -/
def size (dictionary : Dictionary α) : Nat := dictionary.entries.length

instance [DecidableEq α] : DecidableEq (Dictionary α) := fun left right =>
  if same : left.entries = right.entries then
    isTrue (by cases left; cases right; simpa using same)
  else isFalse fun equal => same (by rw [equal])

end Dictionary

end SignIn
