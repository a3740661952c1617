import SignIn.Transport

/-!
# Shared slots

A slot may have several holders: what one of them stores, any of them can take, but only once.
-/

namespace SignIn

/-- Slots and those who hold them. -/
structure SharedSlots where
  /-- The slots. -/
  slots : List Slot
  /-- For each holder the index of the slot. -/
  holders : List Nat
  /-- Every holder has a slot. -/
  held : ∀ index ∈ holders, index < slots.length

namespace SharedSlots

/-- One slot with one holder. -/
def start : SharedSlots := ⟨[.empty], [0], by simp⟩

/-- Add a slot with a holder of its own. -/
def add (shared : SharedSlots) : SharedSlots :=
  ⟨shared.slots ++ [.empty], shared.holders ++ [shared.slots.length], by
    intro index member
    rw [List.length_append]
    rcases List.mem_append.1 member with earlier | added
    · exact Nat.lt_add_right _ (shared.held index earlier)
    · simp_all⟩

/-- Add a holder of the slot that another one holds. -/
def share (shared : SharedSlots) (holder : Nat) : SharedSlots :=
  match found : shared.holders[holder]? with
  | none => shared
  | some place =>
    ⟨shared.slots, shared.holders ++ [place], by
      intro index member
      rcases List.mem_append.1 member with earlier | added
      · exact shared.held index earlier
      · rw [List.mem_singleton.1 added]
        exact shared.held place (List.mem_of_getElem? found)⟩

/-- The slot of a holder. -/
def slot? (shared : SharedSlots) (holder : Nat) : Option Slot :=
  (shared.holders[holder]?).bind fun place => shared.slots[place]?

/-- Change the slot of a holder. -/
def change (shared : SharedSlots) (holder : Nat) (change : Slot → Slot) : SharedSlots :=
  match shared.holders[holder]? with
  | none => shared
  | some place =>
    ⟨shared.slots.modify place change, shared.holders, by simpa using shared.held⟩

/-- Store metadata in the slot of a holder. -/
def store (shared : SharedSlots) (holder : Nat) (metadata : Metadata) : SharedSlots :=
  shared.change holder (·.store metadata)

/-- Take what is stored in the slot of a holder. -/
def take (shared : SharedSlots) (holder : Nat) : Option Metadata × SharedSlots :=
  ((shared.slot? holder).bind (·.take.1), shared.change holder (·.take.2))

end SharedSlots

end SignIn
