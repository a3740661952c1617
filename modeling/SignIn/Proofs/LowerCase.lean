import SignIn.Proofs.Text

/-!
# Lower case twice

What has been lower-cased stays as it is when it is lower-cased again.  No range of the table of
lower cases reaches the code points to which a range leads, and a sigma becomes one of two small
letters that do not depend on where they stand.
-/

namespace SignIn.Text

/-! ## The table -/

namespace CaseRange

/-- Whether a code point is one of a range. -/
def covers (range : CaseRange) (code : Nat) : Bool :=
  range.first ≤ code && code ≤ range.last && (code - range.first) % range.step == 0

theorem covers_iff {range : CaseRange} {code : Nat} :
    range.covers code = true ↔
      range.first ≤ code ∧ code ≤ range.last ∧ (code - range.first) % range.step = 0 := by
  simp [covers, and_assoc]

/-- Where the first code point of a range leads. -/
def start (range : CaseRange) : Nat := (range.first + range.shift).toNat

/-- Where the last code point of a range leads. -/
def stop (range : CaseRange) : Nat := (range.last + range.shift).toNat

/-- Whether no code point of one range leads into another one: both lie apart, or they interlock and
take every second code point each. -/
def avoids (range other : CaseRange) : Bool :=
  Nat.blt range.stop other.first || Nat.blt other.last range.start ||
    ((range.step == 2 || range.first == range.last) && other.step == 2 &&
      (other.first + range.start) % 2 == 1)

/-- Whether the code points to which a range leads are characters without a lower case of their
own. -/
def isSettled (range : CaseRange) : Bool :=
  (0 ≤ range.first + range.shift : Bool) &&
    (Nat.blt range.stop 0x130 || Nat.blt 0x130 range.start && Nat.blt range.stop 0xD800 ||
      Nat.blt 0xDFFF range.start && Nat.blt range.stop 0x110000) &&
    lowerRanges.all range.avoids

theorem not_covers_of_avoids {range other : CaseRange} (positive : 0 ≤ range.first + range.shift)
    (apart : range.avoids other = true) {code : Nat} (covered : range.covers code = true) :
    other.covers (code + range.shift).toNat = false := by
  obtain ⟨above, below, stepped⟩ := covers_iff.1 covered
  have lower : range.start ≤ (code + range.shift).toNat := by
    unfold start
    omega
  have upper : (code + range.shift).toNat ≤ range.stop := by
    unfold stop
    omega
  refine Bool.eq_false_iff.2 fun reached => ?_
  obtain ⟨other_above, other_below, other_stepped⟩ := covers_iff.1 reached
  simp only [avoids, Bool.or_eq_true, Bool.and_eq_true, Nat.blt_eq, beq_iff_eq] at apart
  rcases apart with (before | behind) | ⟨⟨spaced, other_spaced⟩, odd⟩
  · omega
  · omega
  · -- The two ranges interlock: the code points of the one are even, seen from the other.
    have start_eq : (code + range.shift).toNat = range.start + (code - range.first) := by
      unfold start
      omega
    rw [other_spaced] at other_stepped
    have even : (code - range.first) % 2 = 0 := by
      rcases spaced with twos | single
      · rwa [twos] at stepped
      · omega
    omega

end CaseRange

/-- The whole table leads to characters without a lower case of their own. -/
theorem isSettled_lowerRanges : lowerRanges.all CaseRange.isSettled = true := by decide +kernel

/-! ## Characters -/

theorem isLower_of_not_covers {char : Char} (undotted : char.toNat ≠ 0x130)
    (free : ∀ range ∈ lowerRanges, range.covers char.toNat = false) : IsLower char := by
  refine ⟨?_, ?_⟩
  · rintro rfl
    have covered : lowerRanges.any (·.covers 'Σ'.toNat) = true := by decide
    obtain ⟨range, member, reached⟩ := List.any_eq_true.1 covered
    rw [free range member] at reached
    cases reached
  · have no_capital : ¬(0x41 ≤ char.toNat ∧ char.toNat ≤ 0x5A) := by
      rintro ⟨above, below⟩
      have first : (⟨0x41, 0x5A, 1, 32⟩ : CaseRange) ∈ lowerRanges := List.mem_cons_self
      have covered : CaseRange.covers ⟨0x41, 0x5A, 1, 32⟩ char.toNat = true :=
        CaseRange.covers_iff.2 ⟨above, below, Nat.mod_one _⟩
      rw [free _ first] at covered
      cases covered
    have none_found : lowerRanges.find? (·.covers char.toNat) = none :=
      List.find?_eq_none.2 fun range member => by simp [free range member]
    simp only [CaseRange.covers] at none_found
    simp only [lowerChar, if_neg no_capital, if_neg undotted, none_found, ite_self]

/-- A character to which a range leads is its own lower case. -/
theorem isLower_of_covers {range : CaseRange} (listed : range ∈ lowerRanges) {code : Nat}
    (covered : range.covers code = true) :
    IsLower (Char.ofNat (Int.toNat (code + range.shift))) := by
  have settled := List.all_eq_true.1 isSettled_lowerRanges range listed
  simp only [CaseRange.isSettled, Bool.and_eq_true, Bool.or_eq_true, Nat.blt_eq,
    decide_eq_true_eq] at settled
  obtain ⟨⟨positive, placed⟩, apart⟩ := settled
  obtain ⟨above, below, -⟩ := CaseRange.covers_iff.1 covered
  have lower : range.start ≤ (code + range.shift).toNat := by
    unfold CaseRange.start
    omega
  have upper : (code + range.shift).toNat ≤ range.stop := by
    unfold CaseRange.stop
    omega
  have valid : (code + range.shift).toNat.isValidChar := by
    rcases placed with (small | ⟨-, small⟩) | ⟨high, small⟩
    · exact .inl (by omega)
    · exact .inl (by omega)
    · exact .inr ⟨by omega, by omega⟩
  have code_eq : (Char.ofNat (code + range.shift).toNat).toNat = (code + range.shift).toNat := by
    rw [Char.ofNat, dif_pos valid]
    rfl
  refine isLower_of_not_covers ?_ fun other member => ?_
  · rw [code_eq]
    omega
  · rw [code_eq]
    exact CaseRange.not_covers_of_avoids positive (List.all_eq_true.1 apart other member) covered

/-- The lower case of a character consists of characters that are their own lower case. -/
theorem isLower_of_mem_lowerChar {char lowered : Char} (no_sigma : char ≠ 'Σ')
    (member : lowered ∈ lowerChar char) : IsLower lowered := by
  have unchanged : lowerChar char = [char] → IsLower lowered := by
    intro same
    rw [same, List.mem_singleton] at member
    exact member ▸ ⟨no_sigma, same⟩
  by_cases ascii : char.toNat < 0x80
  · by_cases capital : 0x41 ≤ char.toNat ∧ char.toNat ≤ 0x5A
    · have first : (⟨0x41, 0x5A, 1, 32⟩ : CaseRange) ∈ lowerRanges := List.mem_cons_self
      have covered : CaseRange.covers ⟨0x41, 0x5A, 1, 32⟩ char.toNat = true :=
        CaseRange.covers_iff.2 ⟨capital.1, capital.2, Nat.mod_one _⟩
      simp only [lowerChar, if_pos ascii, if_pos capital, List.mem_singleton] at member
      rw [member]
      exact isLower_of_covers first covered
    · exact unchanged (isLower_of_ascii ascii capital).lowered
  · by_cases dotted : char.toNat = 0x130
    · simp only [lowerChar, if_neg ascii, if_pos dotted, List.mem_cons, List.not_mem_nil,
        or_false] at member
      rcases member with rfl | rfl
      · exact ⟨by decide, by decide⟩
      · exact ⟨by decide, by decide⟩
    · simp only [lowerChar, if_neg ascii, if_neg dotted] at member unchanged
      split at member
      next range found =>
        have covered := List.find?_some found
        rw [List.mem_singleton] at member
        rw [member]
        exact isLower_of_covers (List.mem_of_find?_eq_some found) covered
      next none_found =>
        rw [none_found] at unchanged
        exact unchanged rfl

/-! ## Texts -/

theorem isLower_of_mem_lowerFrom {passed text : List Char} {lowered : Char}
    (member : lowered ∈ lowerFrom passed text) : IsLower lowered := by
  induction text generalizing passed with
  | nil => cases member
  | cons char text ih =>
    rw [lowerFrom] at member
    rcases List.mem_append.1 member with first | later
    · by_cases sigma : char = 'Σ'
      · rw [if_pos sigma, List.mem_singleton] at first
        rw [first]
        cases meetsCased passed && !meetsCased text with
        | true => exact ⟨by decide, by decide⟩
        | false => exact ⟨by decide, by decide⟩
      · rw [if_neg sigma] at first
        exact isLower_of_mem_lowerChar sigma first
    · exact ih later

/-- Lower-casing a text a second time changes nothing. -/
theorem toLower_idem (text : List Char) : toLower (toLower text) = toLower text :=
  lowerFrom_of_isLower fun _ member => isLower_of_mem_lowerFrom member

theorem lowerCase_ofList_toLower (text : List Char) :
    lowerCase (String.ofList (toLower text)) = String.ofList (toLower text) := by
  rw [lowerCase, String.toList_ofList, toLower_idem]

end SignIn.Text
