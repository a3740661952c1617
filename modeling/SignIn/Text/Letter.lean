/-!
# ASCII letters

Lower-casing a letter once is enough.
-/

namespace SignIn.Text

/-- An upper-case letter is one of twenty-six. -/
theorem eq_ofNat_of_isUpper {char : Char} (upper : char.isUpper = true) :
    ∃ index : Fin 26, char = Char.ofNat (65 + index) := by
  have range : 65 ≤ char.toNat ∧ char.toNat ≤ 90 := of_decide_eq_true upper
  refine ⟨⟨char.toNat - 65, by omega⟩, ?_⟩
  have : 65 + (char.toNat - 65) = char.toNat := by omega
  simp [this]

theorem toLower_of_not_isUpper {char : Char} (upper : char.isUpper = false) :
    char.toLower = char := by
  unfold Char.toLower
  split
  · rename_i range
    exact absurd range (of_decide_eq_false upper)
  · rfl

theorem toLower_toLower (char : Char) : char.toLower.toLower = char.toLower := by
  cases upper : char.isUpper with
  | true =>
    obtain ⟨index, rfl⟩ := eq_ofNat_of_isUpper upper
    revert index
    decide
  | false => simp only [toLower_of_not_isUpper upper]

end SignIn.Text
