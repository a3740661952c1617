import Mathlib.Data.List.Forall2
import SignIn.Proofs.Json.Spelling

/-!
# The compact text spells its value

What is written of a text or of an object is one of its spellings, so whoever reads any spelling of
a value reads what has been written.
-/

namespace SignIn.Json

theorem encode_cons_ascii {char : Char} (ascii : char.toNat < 0x80) (chars : List Char) :
    Utf8.encode (char :: chars) = UInt8.ofNat char.toNat :: Utf8.encode chars := by
  rw [Utf8.encode, List.flatMap_cons, Utf8.encodeChar_ascii ascii]
  rfl

/-! ## Texts -/

/-- A digit is one byte that is read as the number that it was written for. -/
theorem hexDigit_spec (number : Nat) :
    (hexDigit number).toNat < 0x80 ∧
      hexValue? (UInt8.ofNat (hexDigit number).toNat) = some (number % 16) := by
  have checked : ∀ digit : Fin 16, (Nat.digitChar digit).toNat < 0x80 ∧
      hexValue? (UInt8.ofNat (Nat.digitChar digit).toNat) = some digit.val := by decide
  exact checked ⟨number % 16, Nat.mod_lt _ (by decide)⟩

/-- A character is written as itself or as an escape for it. -/
theorem spellsText_escape {chars : List Char} {rest : Bytes} (rest_ok : SpellsText chars rest)
    (char : Char) : SpellsText (char :: chars) (Utf8.encode (escape char) ++ rest) := by
  by_cases short : char ∈ ['"', '\\', '\x08', '\x0c', '\n', '\r', '\t']
  · simp only [List.mem_cons, List.not_mem_nil, or_false] at short
    rcases short with rfl | rfl | rfl | rfl | rfl | rfl | rfl <;>
      exact .escaped (.letter rfl) rest_ok
  simp only [List.mem_cons, List.not_mem_nil, or_false, not_or] at short
  obtain ⟨no_quote, no_slash, no_backspace, no_feed, no_line, no_return, no_tab⟩ := short
  rw [escape, if_neg no_quote, if_neg no_slash, if_neg no_backspace, if_neg no_feed,
    if_neg no_line, if_neg no_return, if_neg no_tab]
  split
  next control =>
    obtain ⟨high_ascii, high_eq⟩ := hexDigit_spec (char.toNat / 16)
    obtain ⟨low_ascii, low_eq⟩ := hexDigit_spec char.toNat
    have written : Utf8.encode
        ['\\', 'u', '0', '0', hexDigit (char.toNat / 16), hexDigit char.toNat] =
          0x5C :: 0x75 :: [0x30, 0x30, UInt8.ofNat (hexDigit (char.toNat / 16)).toNat,
            UInt8.ofNat (hexDigit char.toNat).toNat] := by
      simp only [encode_cons_ascii high_ascii, encode_cons_ascii low_ascii,
        @encode_cons_ascii '\\' (by decide), @encode_cons_ascii 'u' (by decide),
        @encode_cons_ascii '0' (by decide)]
      rfl
    have code_ok : SpellsUnit char.toNat [0x30, 0x30,
        UInt8.ofNat (hexDigit (char.toNat / 16)).toNat,
        UInt8.ofNat (hexDigit char.toNat).toNat] := by
      have unit_eq : ((0 * 16 + 0) * 16 + char.toNat / 16 % 16) * 16 + char.toNat % 16 =
          char.toNat := by omega
      have spelled := SpellsUnit.mk (show hexValue? 0x30 = some 0 from rfl)
        (show hexValue? 0x30 = some 0 from rfl) high_eq low_eq
      rwa [unit_eq] at spelled
    rw [written]
    exact .escaped (.unit code_ok) rest_ok
  next visible =>
    rw [Utf8.encode, List.flatMap_singleton]
    exact .plain ⟨Nat.le_of_not_lt visible, no_quote, no_slash⟩ rest_ok

theorem spellsText_render (chars : List Char) :
    SpellsText chars (Utf8.encode (chars.flatMap escape ++ ['"'])) := by
  induction chars with
  | nil => exact .closed
  | cons char chars ih =>
    rw [List.flatMap_cons, List.append_assoc, Utf8.encode_append]
    exact spellsText_escape ih char

/-- A text is written as it can be spelled. -/
theorem encode_renderString (text : String) :
    ∃ spelled, SpellsText text.toList spelled ∧
      Utf8.encode (renderString text) = 0x22 :: spelled :=
  ⟨_, spellsText_render text.toList, encode_cons_ascii (by decide) _⟩

theorem spells_string (text : String) :
    Spells (.value (.string text)) (Utf8.encode (Value.string text).renderChars) := by
  obtain ⟨spelled, spelled_ok, written⟩ := encode_renderString text
  rw [Value.renderChars, written]
  exact .string (List.forall_mem_nil _) spelled_ok

/-! ## Objects -/

/-- A member of an object is written as a tree with the same name tells it. -/
def TellsMember (member : String × Value) (told : String × Tree) : Prop :=
  member.1 = told.1 ∧ Spells (.value told.2) (Utf8.encode member.2.renderChars)

theorem tells_string (name text : String) : TellsMember (name, .string text) (name, .string text) :=
  ⟨rfl, spells_string text⟩

/-- A member is written behind what stands before it, and then the others. -/
theorem spells_member {first : Bool} {lead : Bytes} {others : List Char}
    (lead_ok : Leads first lead) {member : String × Value} {told : String × Tree}
    {trees : List (String × Tree)} (tells : TellsMember member told)
    (others_ok : Spells (.members false trees) (Utf8.encode others)) :
    Spells (.members first (told :: trees))
      (lead ++ Utf8.encode (renderString member.1 ++ ':' :: (member.2.renderChars ++ others))) := by
  obtain ⟨name, value⟩ := member
  obtain ⟨name, tree⟩ := told
  obtain ⟨rfl, value_ok⟩ := tells
  obtain ⟨spelled, spelled_ok, written⟩ := encode_renderString name
  have member_ok := Spells.member lead_ok spelled_ok (List.forall_mem_nil _) value_ok others_ok
  rw [Utf8.encode_append, written, encode_cons_ascii (by decide), Utf8.encode_append]
  exact member_ok

theorem spells_members {members : List (String × Value)} {trees : List (String × Tree)}
    (tells : List.Forall₂ TellsMember members trees) :
    Spells (.members false trees) (Utf8.encode (Value.renderMembers members)) := by
  induction tells with
  | nil => exact @Spells.noMembers false [] (List.forall_mem_nil _)
  | @cons member told members trees first_ok _ ih =>
    have lead_ok : Leads false ([] ++ 0x2C :: []) :=
      .later (List.forall_mem_nil _) (List.forall_mem_nil _)
    rw [Value.renderMembers, encode_cons_ascii (by decide)]
    exact spells_member lead_ok first_ok ih

/-- An object is written as it can be spelled if its values are. -/
theorem spells_object {members : List (String × Value)} {trees : List (String × Tree)}
    (tells : List.Forall₂ TellsMember members trees) :
    Spells (.value (.object trees)) (Utf8.encode (Value.object members).renderChars) := by
  have no_blank : IsBlank [] := List.forall_mem_nil _
  cases tells with
  | nil => exact .object no_blank (@Spells.noMembers true [] no_blank)
  | @cons member told members trees first_ok later_ok =>
    rw [Value.renderChars, encode_cons_ascii (by decide)]
    exact .object no_blank (spells_member (.first no_blank) first_ok (spells_members later_ok))

/-! ## Documents -/

/-- The compact text of a value tells the value and nothing else. -/
theorem Spells.document {tree : Tree} {value : Value}
    (spelled : Spells (.value tree) (Utf8.encode value.renderChars)) :
    SpellsDocument tree (Utf8.encode value.render.toList) := by
  rw [Value.render, String.toList_ofList]
  exact ⟨_, [], spelled, List.forall_mem_nil _, (List.append_nil _).symm⟩

end SignIn.Json
