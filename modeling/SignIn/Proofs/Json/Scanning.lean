import SignIn.Proofs.Except
import SignIn.Proofs.Json.Grammar
import SignIn.Proofs.Text

/-!
# What scans consume

A scan that succeeds has consumed what the grammar calls by its name, and a scan that starts with
such bytes consumes them, whatever comes after them.
-/

namespace SignIn.Json

/-! ## Places -/

section

variable {bytes : Bytes} {byte : UInt8}

@[simp]
theorem Upto.all_val : (Upto.all bytes).val = bytes := rfl

@[simp]
theorem Upto.cons_val (last : Upto bytes) : (last.cons byte).val = last.val := rfl

@[simp]
theorem Upto.before_val (rest : Upto bytes) (last : Rest rest.val) :
    (rest.before last).val = last.val := rfl

@[simp]
theorem Rest.upto_val (rest : Rest bytes) : rest.upto.val = rest.val := rfl

@[simp]
theorem Rest.uncons_val (rest : Rest (byte :: bytes)) : rest.uncons.val = rest.val := rfl

@[simp]
theorem Rest.before_val (rest : Rest bytes) (last : Upto rest.val) :
    (rest.before last).val = last.val := rfl

end

theorem ascii_injective {byte other : UInt8} (same : ascii byte = ascii other) : byte = other := by
  have toNat_eq := congrArg Char.toNat same
  rw [← UInt8.toNat_inj]
  exact toNat_eq

theorem ascii_eq_iff {byte other : UInt8} : ascii byte = ascii other ↔ byte = other :=
  ⟨ascii_injective, congrArg ascii⟩

theorem frame_close_eq (frame : Frame) : frame.close = ascii frame.closing := by
  cases frame <;> rfl

@[simp]
theorem opened?_opening (frame : Frame) : opened? frame.opening = some frame := by
  cases frame <;> rfl

theorem opened?_eq_some_iff {byte : UInt8} {frame : Frame} :
    opened? byte = some frame ↔ byte = frame.opening := by
  constructor
  · intro opened
    unfold opened? at opened
    split at opened
    · cases opened
      exact @ascii_injective byte 0x5B (by assumption)
    · cases opened
      exact @ascii_injective byte 0x7B (by assumption)
    · cases opened
  · rintro rfl
    exact opened?_opening frame

/-! ## Taking -/

section

variable {ε α : Type}

/-- What is taken from these bytes is the same whatever follows them, if only it is fit to. -/
def Takes (take : (bytes : Bytes) → Except ε (α × Rest bytes)) (Follows : Bytes → Prop)
    (content : α) (text : Bytes) : Prop :=
  ∀ bytes rest, Follows rest → bytes = text ++ rest →
    ∃ last, take bytes = .ok (content, last) ∧ last.val = rest

/-- Whatever is taken is taken from bytes of a kind, and from those alone. -/
def Reads (take : (bytes : Bytes) → Except ε (α × Rest bytes)) (Kind : α → Bytes → Prop)
    (Follows : Bytes → Prop) : Prop :=
  ∀ bytes content last, take bytes = .ok (content, last) →
    ∃ text, Kind content text ∧ bytes = text ++ last.val ∧ Takes take Follows content text

/-- Anything may follow. -/
def Anything (_ : Bytes) : Prop := True

end

/-! ## Blanks -/

theorem takeWhile_kept (keep : UInt8 → Bool) (bytes : Bytes) :
    ∀ byte ∈ bytes.takeWhile keep, keep byte = true :=
  List.all_eq_true.1 List.all_takeWhile

/-- Bytes that do not start with a byte of a kind. -/
def Avoids (kind : UInt8 → Bool) (bytes : Bytes) : Prop :=
  ∀ byte, bytes.head? = some byte → kind byte = false

theorem Avoids.mono {kind other : UInt8 → Bool} {bytes : Bytes} (avoided : Avoids kind bytes)
    (weaker : ∀ byte, kind byte = false → other byte = false) : Avoids other bytes :=
  fun byte byte_eq => weaker byte (avoided byte byte_eq)

theorem avoids_nil (kind : UInt8 → Bool) : Avoids kind [] := by
  intro byte byte_eq
  cases byte_eq

theorem avoids_cons {kind : UInt8 → Bool} {byte : UInt8} {bytes : Bytes} :
    Avoids kind (byte :: bytes) ↔ kind byte = false := by
  simp [Avoids]

theorem firstOther?_sound {keep : UInt8 → Bool} {bytes : Bytes} {byte : UInt8}
    {last : Rest bytes} (found_eq : firstOther? keep bytes = some (byte, last)) :
    keep byte = false ∧ bytes = bytes.takeWhile keep ++ byte :: last.val := by
  unfold firstOther? at found_eq
  split at found_eq
  next => cases found_eq
  next first others found =>
    cases found_eq
    constructor
    · have stopped := List.head?_dropWhile_not keep bytes
      rw [found] at stopped
      simpa using stopped
    · rw [← found, List.takeWhile_append_dropWhile]

theorem firstOther?_complete {keep : UInt8 → Bool} {bytes kept rest : Bytes} {byte : UInt8}
    (kept_ok : ∀ other ∈ kept, keep other = true) (stops : keep byte = false)
    (bytes_eq : bytes = kept ++ byte :: rest) :
    ∃ last, firstOther? keep bytes = some (byte, last) ∧ last.val = rest := by
  subst bytes_eq
  have found_eq : (kept ++ byte :: rest).dropWhile keep = byte :: rest := by
    rw [List.dropWhile_append_of_pos kept_ok, List.dropWhile_cons_of_neg (by simp [stops])]
  unfold firstOther?
  split
  next none_eq => simp [found_eq] at none_eq
  next first others found =>
    rw [found_eq, List.cons.injEq] at found
    obtain ⟨rfl, rfl⟩ := found
    exact ⟨_, rfl, rfl⟩

theorem next?_sound {bytes : Bytes} {byte : UInt8} {last : Rest bytes}
    (found_eq : next? bytes = some (byte, last)) :
    ∃ blank, IsBlank blank ∧ isSpace byte = false ∧ bytes = blank ++ byte :: last.val := by
  obtain ⟨stops, bytes_eq⟩ := firstOther?_sound found_eq
  exact ⟨_, takeWhile_kept _ _, stops, bytes_eq⟩

theorem next?_complete {bytes blank rest : Bytes} {byte : UInt8} (blank_ok : IsBlank blank)
    (stops : isSpace byte = false) (bytes_eq : bytes = blank ++ byte :: rest) :
    ∃ last, next? bytes = some (byte, last) ∧ last.val = rest :=
  firstOther?_complete blank_ok stops bytes_eq

theorem next?_append {blank : Bytes} {byte : UInt8} (blank_ok : IsBlank blank)
    (stops : isSpace byte = false) (rest : Bytes) :
    ∃ last, next? (blank ++ byte :: rest) = some (byte, last) ∧ last.val = rest :=
  next?_complete blank_ok stops rfl

/-! ## Letters -/

theorem expect_sound {letters bytes : Bytes} {last : Upto bytes}
    (expected : expect (letters.map ascii) bytes = .ok last) : bytes = letters ++ last.val := by
  induction letters generalizing bytes with
  | nil =>
    cases expected
    rfl
  | cons letter letters ih =>
    cases bytes with
    | nil => cases expected
    | cons byte bytes =>
      rw [List.map_cons, expect] at expected
      split at expected
      next same =>
        split at expected
        next later later_eq =>
          cases expected
          rw [ascii_injective same, List.cons_append, List.cons.injEq]
          exact ⟨rfl, ih later_eq⟩
        next => cases expected
      next => cases expected

theorem expect_complete {letters bytes rest : Bytes} (bytes_eq : bytes = letters ++ rest) :
    ∃ last, expect (letters.map ascii) bytes = .ok last ∧ last.val = rest := by
  subst bytes_eq
  induction letters with
  | nil => exact ⟨_, rfl, rfl⟩
  | cons letter letters ih =>
    obtain ⟨last, expected, last_eq⟩ := ih
    rw [List.map_cons, List.cons_append, expect, if_pos rfl, expected]
    exact ⟨_, rfl, last_eq⟩

theorem colon_sound {bytes : Bytes} {last : Rest bytes} (passed : colon bytes = .ok last) :
    ∃ blank, IsBlank blank ∧ bytes = blank ++ 0x3A :: last.val := by
  unfold colon at passed
  split at passed
  next => cases passed
  next byte rest found =>
    split at passed
    next same =>
      cases passed
      obtain ⟨blank, blank_ok, _, bytes_eq⟩ := next?_sound found
      rw [@ascii_injective byte 0x3A same] at bytes_eq
      exact ⟨blank, blank_ok, bytes_eq⟩
    next => cases passed

theorem colon_complete {bytes blank rest : Bytes} (blank_ok : IsBlank blank)
    (bytes_eq : bytes = blank ++ 0x3A :: rest) :
    ∃ last, colon bytes = .ok last ∧ last.val = rest := by
  obtain ⟨last, found, last_eq⟩ := next?_complete blank_ok rfl bytes_eq
  refine ⟨last, ?_, last_eq⟩
  rw [colon, found]
  rfl

end SignIn.Json
