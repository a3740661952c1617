import Mathlib.Data.List.Induction
import Mathlib.Data.List.Nodup
import SignIn.Dictionary

/-!
# Dictionaries by their look-ups

A dictionary is known by what its keys are looked up as: the entries stand in the order of the
keys, so two dictionaries with the same look-ups are equal, and changes of different keys can be
made in either order.
-/

namespace SignIn.Dictionary

universe u v

variable {α : Type u} {β : Type v}

/-! ## Keys -/

theorem keys_ascending (dictionary : Dictionary α) : dictionary.keys.Pairwise (· < ·) :=
  List.pairwise_map.2 dictionary.ascending

theorem keys_nodup (dictionary : Dictionary α) : dictionary.keys.Nodup := by
  apply dictionary.keys_ascending.imp
  rintro before after below rfl
  exact String.lt_irrefl _ below

theorem mem_keys_alter {dictionary : Dictionary α} {key name : String}
    {change : Option α → α} :
    name ∈ (dictionary.alter key change).keys ↔ name = key ∨ name ∈ dictionary.keys :=
  mem_keys_alterEntries

/-! ## Entries -/

theorem lookUp?_eq_some_iff {entries : List (String × α)} (distinct : (entries.map (·.1)).Nodup)
    {key : String} {value : α} : lookUp? key entries = some value ↔ (key, value) ∈ entries := by
  induction entries with
  | nil => simp [lookUp?]
  | cons entry rest ih =>
    obtain ⟨name, first⟩ := entry
    obtain ⟨absent, rest_distinct⟩ := List.nodup_cons.1 distinct
    rw [lookUp?_cons, List.mem_cons, Prod.mk.injEq]
    by_cases same : name = key
    · subst same
      have not_later : (name, value) ∉ rest := fun member =>
        absent (List.mem_map.2 ⟨_, member, rfl⟩)
      rw [if_pos rfl]
      simp [not_later, eq_comm]
    · rw [if_neg same, ih rest_distinct]
      simp [Ne.symm same]

/-- What a key is looked up as stands with it among the entries. -/
theorem get?_eq_some_iff {dictionary : Dictionary α} {key : String} {value : α} :
    dictionary.get? key = some value ↔ (key, value) ∈ dictionary.entries :=
  lookUp?_eq_some_iff dictionary.keys_nodup

/-- Dictionaries with the same look-ups are equal. -/
theorem ext_get? {left right : Dictionary α} (same : ∀ key, left.get? key = right.get? key) :
    left = right := by
  have members : ∀ entry, entry ∈ left.entries ↔ entry ∈ right.entries := by
    rintro ⟨key, value⟩
    rw [← get?_eq_some_iff, ← get?_eq_some_iff, same]
  have rearranged : left.entries.Perm right.entries :=
    (List.perm_ext_iff_of_nodup left.keys_nodup.of_map right.keys_nodup.of_map).2 members
  have entries_eq : left.entries = right.entries :=
    rearranged.eq_of_pairwise
      (fun _ _ _ _ below above => absurd (String.lt_trans below above) (String.lt_irrefl _))
      left.ascending right.ascending
  obtain ⟨entries, ascending⟩ := left
  cases entries_eq
  rfl

/-! ## Changes -/

/-- Different keys can be changed in either order. -/
theorem alter_comm (dictionary : Dictionary α) {key other : String} (differ : key ≠ other)
    (change later : Option α → α) :
    (dictionary.alter key change).alter other later =
      (dictionary.alter other later).alter key change := by
  refine ext_get? fun name => ?_
  simp only [get?_alter, if_neg differ, if_neg differ.symm]
  by_cases first : key = name
  · have not_second : other ≠ name := fun second => differ (first.trans second.symm)
    rw [if_neg not_second, if_pos first, if_pos first]
  · rw [if_neg first, if_neg first]

/-! ## Lists -/

/-- The entries of a list of pairs are looked up from its end. -/
theorem get?_ofList (pairs : List (String × α)) (name : String) :
    (ofList pairs).get? name = lookUp? name pairs.reverse := by
  induction pairs using List.reverseRecOn with
  | nil => rfl
  | append_singleton pairs pair ih =>
    rw [List.reverse_append, List.reverse_singleton, List.singleton_append, lookUp?_cons, ← ih,
      ofList, List.foldl_append]
    exact get?_insert _ _ _ _

/-- A dictionary is made again from its own entries. -/
theorem ofList_entries (dictionary : Dictionary α) : ofList dictionary.entries = dictionary := by
  refine ext_get? fun key => ?_
  have distinct : (dictionary.entries.map (·.1)).Nodup := dictionary.keys_nodup
  have backwards : (dictionary.entries.reverse.map (·.1)).Nodup := by
    rw [List.map_reverse]
    exact List.nodup_reverse.2 distinct
  rw [get?_ofList]
  refine Option.ext fun value => ?_
  rw [lookUp?_eq_some_iff backwards, List.mem_reverse, get?_eq_some_iff]

/-- In a list of pairs the last one of a key counts. -/
theorem get?_ofList_eq_last (pairs : List (String × α)) (key : String) :
    (ofList pairs).get? key =
      ((pairs.filter fun pair => pair.1 == key).getLast?).map (·.2) := by
  rw [get?_ofList, lookUp?, ← List.head?_filter, List.filter_reverse, List.head?_reverse]

theorem lookUp?_map (change : α → β) (pairs : List (String × α)) (name : String) :
    lookUp? name (pairs.map fun pair => (pair.1, change pair.2)) =
      (lookUp? name pairs).map change := by
  induction pairs with
  | nil => rfl
  | cons pair pairs ih =>
    rw [List.map_cons, lookUp?_cons, lookUp?_cons, ih]
    split <;> rfl

end SignIn.Dictionary
