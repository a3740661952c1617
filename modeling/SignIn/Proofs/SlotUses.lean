import Mathlib.Data.List.Induction
import SignIn.SharedSlots

/-!
# Uses of slots

The holders of a slot store in it and take from it in any order.  What a take finds is decided by
the last use of that slot before it, by whichever holder: it finds what was stored then, and nothing
behind another take.
-/

namespace SignIn

/-- What a holder does with its slot. -/
inductive SlotUse where
  /-- It stores metadata. -/
  | store (metadata : Metadata)
  /-- It takes what is stored. -/
  | take

/-- What lies in a slot after a use. -/
def SlotUse.left : SlotUse → Option Metadata
  | .store metadata => some metadata
  | .take => none

namespace SharedSlots

/-- The slots after a holder has used its own. -/
def use (shared : SharedSlots) (holder : Nat) : SlotUse → SharedSlots
  | .store metadata => shared.store holder metadata
  | .take => (shared.take holder).2

/-- The slots after uses in order, each by a holder. -/
def useAll (shared : SharedSlots) (uses : List (Nat × SlotUse)) : SharedSlots :=
  uses.foldl (fun shared use => shared.use use.1 use.2) shared

/-- Two holders of the same slot. -/
def Share (shared : SharedSlots) (holder other : Nat) : Prop :=
  ∃ place, shared.holders[holder]? = some place ∧ shared.holders[other]? = some place

/-! ## One use -/

section

variable {shared : SharedSlots} {user holder : Nat}

theorem Share.slot?_eq_some (together : shared.Share user holder) :
    ∃ slot, shared.slot? holder = some slot := by
  obtain ⟨place, -, holder_at⟩ := together
  have inside : place < shared.slots.length := shared.held place (List.mem_of_getElem? holder_at)
  exact ⟨shared.slots[place], by simp [slot?, holder_at, inside]⟩

@[simp]
theorem holders_change (update : Slot → Slot) :
    (shared.change user update).holders = shared.holders := by
  unfold change
  split <;> rfl

/-- A change is seen by all holders of the slot. -/
theorem slot?_change_of_share (together : shared.Share user holder) (update : Slot → Slot) :
    (shared.change user update).slot? holder = (shared.slot? holder).map update := by
  obtain ⟨place, user_at, holder_at⟩ := together
  have slots_eq : (shared.change user update).slots = shared.slots.modify place update := by
    unfold change
    split
    next none_at => cases user_at.symm.trans none_at
    next spot spot_at =>
      cases user_at.symm.trans spot_at
      rfl
  simp [slot?, holder_at, slots_eq, List.getElem?_modify_eq]

/-- A change is seen by no other holder. -/
theorem slot?_change_of_not_share (apart : ¬shared.Share user holder) (update : Slot → Slot) :
    (shared.change user update).slot? holder = shared.slot? holder := by
  unfold slot?
  rw [holders_change]
  cases holder_at : shared.holders[holder]? with
  | none => rfl
  | some place =>
    unfold change
    split
    next => rfl
    next spot spot_at =>
      have place_ne : spot ≠ place := by
        rintro rfl
        exact apart ⟨spot, spot_at, holder_at⟩
      simp [List.getElem?_modify, place_ne]

theorem use_eq_change (use : SlotUse) :
    shared.use user use = shared.change user fun _ => ⟨use.left⟩ := by
  cases use <;> rfl

@[simp]
theorem holders_use (use : SlotUse) : (shared.use user use).holders = shared.holders := by
  rw [use_eq_change, holders_change]

@[simp]
theorem share_use {other : Nat} (use : SlotUse) :
    (shared.use user use).Share holder other ↔ shared.Share holder other := by
  rw [Share, holders_use, Share]

/-- A use of a slot decides what any of its holders finds. -/
theorem take_use_of_share (together : shared.Share user holder) (use : SlotUse) :
    ((shared.use user use).take holder).1 = use.left := by
  obtain ⟨slot, slot_eq⟩ := together.slot?_eq_some
  rw [take, use_eq_change, slot?_change_of_share together, slot_eq]
  rfl

/-- A use of a slot leaves all other slots as they are. -/
theorem take_use_of_not_share (apart : ¬shared.Share user holder) (use : SlotUse) :
    ((shared.use user use).take holder).1 = (shared.take holder).1 := by
  rw [take, use_eq_change, slot?_change_of_not_share apart, take]

end

/-! ## Any number of uses -/

theorem useAll_snoc (shared : SharedSlots) (uses : List (Nat × SlotUse)) (user : Nat)
    (use : SlotUse) :
    shared.useAll (uses ++ [(user, use)]) = (shared.useAll uses).use user use := by
  simp [useAll]

theorem share_useAll {shared : SharedSlots} {holder other : Nat} (uses : List (Nat × SlotUse)) :
    (shared.useAll uses).Share holder other ↔ shared.Share holder other := by
  induction uses using List.reverseRecOn with
  | nil => rfl
  | append_singleton uses last ih => rw [useAll_snoc, share_use, ih]

/-- What a holder finds is what was stored in the last use of its slot. -/
theorem take_useAll_of_share {shared : SharedSlots} {holder user : Nat}
    (together : shared.Share user holder) (front : List (Nat × SlotUse)) (use : SlotUse)
    {back : List (Nat × SlotUse)} (unused : ∀ later ∈ back, ¬shared.Share later.1 holder) :
    ((shared.useAll (front ++ (user, use) :: back)).take holder).1 = use.left := by
  -- The uses behind the last one of the slot are taken away from the end, one after another.
  induction back using List.reverseRecOn with
  | nil => rw [useAll_snoc, take_use_of_share ((share_useAll front).2 together)]
  | append_singleton back last ih =>
    rw [List.forall_mem_append, List.forall_mem_singleton] at unused
    rw [← List.cons_append, ← List.append_assoc, useAll_snoc,
      take_use_of_not_share (mt (share_useAll _).1 unused.2), ih unused.1]

/-- Where a slot has not been used, its holders find what was there. -/
theorem take_useAll_of_unused {shared : SharedSlots} {holder : Nat} {uses : List (Nat × SlotUse)}
    (unused : ∀ use ∈ uses, ¬shared.Share use.1 holder) :
    ((shared.useAll uses).take holder).1 = (shared.take holder).1 := by
  induction uses using List.reverseRecOn with
  | nil => rfl
  | append_singleton uses last ih =>
    rw [List.forall_mem_append, List.forall_mem_singleton] at unused
    rw [useAll_snoc, take_use_of_not_share (mt (share_useAll _).1 unused.2), ih unused.1]

/-- Either a slot has not been used, or there is a last use of it. -/
theorem unused_or_last_use (shared : SharedSlots) (holder : Nat) (uses : List (Nat × SlotUse)) :
    (∀ use ∈ uses, ¬shared.Share use.1 holder) ∨
      ∃ front user use back, uses = front ++ (user, use) :: back ∧ shared.Share user holder ∧
        ∀ later ∈ back, ¬shared.Share later.1 holder := by
  induction uses using List.reverseRecOn with
  | nil => exact .inl (by simp)
  | append_singleton uses last ih =>
    by_cases together : shared.Share last.1 holder
    · exact .inr ⟨uses, last.1, last.2, [], rfl, together, by simp⟩
    · rcases ih with unused | ⟨front, user, use, back, rfl, used, unused⟩
      · exact .inl (List.forall_mem_append.2 ⟨unused, List.forall_mem_singleton.2 together⟩)
      · exact .inr ⟨front, user, use, back ++ [last], by simp, used,
          List.forall_mem_append.2 ⟨unused, List.forall_mem_singleton.2 together⟩⟩

/-- A take finds metadata exactly if they were stored in the last use of the slot, or were there
before a slot that has not been used. -/
theorem take_useAll_eq_some_iff (shared : SharedSlots) (holder : Nat)
    (uses : List (Nat × SlotUse)) (metadata : Metadata) :
    ((shared.useAll uses).take holder).1 = some metadata ↔
      (∃ front user back, uses = front ++ (user, .store metadata) :: back ∧
        shared.Share user holder ∧ ∀ later ∈ back, ¬shared.Share later.1 holder) ∨
      (∀ use ∈ uses, ¬shared.Share use.1 holder) ∧ (shared.take holder).1 = some metadata := by
  constructor
  · intro found
    rcases shared.unused_or_last_use holder uses with
      unused | ⟨front, user, use, back, rfl, together, unused⟩
    · rw [take_useAll_of_unused unused] at found
      exact .inr ⟨unused, found⟩
    · rw [take_useAll_of_share together front use unused] at found
      cases use with
      | store stored =>
        cases found
        exact .inl ⟨front, user, back, rfl, together, unused⟩
      | take => cases found
  · rintro (⟨front, user, back, rfl, together, unused⟩ | ⟨unused, found⟩)
    · exact take_useAll_of_share together front _ unused
    · rw [take_useAll_of_unused unused, found]

end SharedSlots

end SignIn
