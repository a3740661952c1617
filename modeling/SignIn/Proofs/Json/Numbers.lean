import SignIn.Proofs.Json.Scanning

/-!
# Numbers

A number is consumed to its end, so it has to be told from what comes after it.
-/

namespace SignIn.Json

/-! ## Ends of numbers -/

/-- Whether a byte may belong to the number before it. -/
def goesOn (byte : UInt8) : Bool :=
  isDigit byte || byte == 0x2E || byte == 0x65 || byte == 0x45

theorem digits_sound {bytes found : Bytes} {last : Rest bytes}
    (scanned : digits bytes = .ok (found, last)) : IsDigits found ∧ bytes = found ++ last.val := by
  unfold digits at scanned
  split at scanned
  next => cases scanned
  next byte bytes =>
    split at scanned
    next digit =>
      cases scanned
      constructor
      · refine ⟨by simp, fun other member => ?_⟩
        rcases List.mem_cons.1 member with rfl | later
        · exact digit
        · exact takeWhile_kept _ _ _ later
      · rw [List.cons_append]
        exact congrArg _ List.takeWhile_append_dropWhile.symm
    next => cases scanned

theorem digits_complete {bytes found rest : Bytes} (found_ok : IsDigits found)
    (avoided : Avoids isDigit rest) (bytes_eq : bytes = found ++ rest) :
    ∃ last, digits bytes = .ok (found, last) ∧ last.val = rest := by
  subst bytes_eq
  obtain ⟨found_ne, all_digits⟩ := found_ok
  cases found with
  | nil => exact absurd rfl found_ne
  | cons byte found =>
    obtain ⟨digit, later⟩ := List.forall_mem_cons.1 all_digits
    obtain ⟨taken, dropped⟩ := Text.cut_append later avoided
    refine ⟨(dropDigits (found ++ rest)).cons byte, ?_, dropped⟩
    simp only [List.cons_append, digits, digit, if_true, taken]

theorem fractionPart_sound {bytes found : Bytes} {last : Upto bytes}
    (scanned : fractionPart bytes = .ok (found, last)) :
    ∃ text, IsFraction text ∧ found = text.tail ∧ bytes = text ++ last.val := by
  unfold fractionPart at scanned
  split at scanned
  next =>
    cases scanned
    exact ⟨[], .absent, rfl, rfl⟩
  next byte bytes =>
    split at scanned
    next point =>
      split at scanned
      next found last digits_eq =>
        cases scanned
        obtain ⟨found_ok, bytes_eq⟩ := digits_sound digits_eq
        refine ⟨0x2E :: found, .present found_ok, rfl, ?_⟩
        rw [@ascii_injective byte 0x2E point, List.cons_append]
        exact congrArg _ bytes_eq
      next => cases scanned
    next =>
      cases scanned
      exact ⟨[], .absent, rfl, rfl⟩

theorem fractionPart_complete {bytes text rest : Bytes} (text_ok : IsFraction text)
    (avoided : Avoids (fun byte => isDigit byte || byte == 0x2E) rest)
    (bytes_eq : bytes = text ++ rest) :
    ∃ last, fractionPart bytes = .ok (text.tail, last) ∧ last.val = rest := by
  subst bytes_eq
  cases text_ok with
  | absent =>
    cases rest with
    | nil => exact ⟨_, rfl, rfl⟩
    | cons byte rest =>
      have no_point : ¬ascii byte = '.' := by
        intro point
        rw [@ascii_injective byte 0x2E point] at avoided
        exact absurd (avoids_cons.1 avoided) (by decide)
      rw [List.nil_append, fractionPart, if_neg no_point]
      exact ⟨_, rfl, rfl⟩
  | @present found found_ok =>
    have no_digit : Avoids isDigit rest := avoided.mono fun byte neither => by
      simp only [Bool.or_eq_false_iff] at neither
      exact neither.1
    obtain ⟨last, scanned, last_eq⟩ := digits_complete found_ok no_digit rfl
    rw [List.cons_append, fractionPart, if_pos (show ascii 0x2E = '.' from rfl), scanned]
    exact ⟨_, rfl, last_eq⟩

/-- The exponent that bytes spell. -/
def exponentOf : Bytes → Option (Bool × Bytes)
  | [] => none
  | _ :: rest => some ((exponentSign rest).1, (exponentSign rest).2.val)

theorem exponentSign_digits {sign digits : Bytes}
    (sign_ok : sign = [] ∨ sign = [0x2B] ∨ sign = [0x2D]) (digits_ok : IsDigits digits)
    (rest : Bytes) :
    (exponentSign (sign ++ (digits ++ rest))).1 = (sign == [0x2D]) ∧
      (exponentSign (sign ++ (digits ++ rest))).2.val = digits ++ rest := by
  obtain ⟨digits_ne, all_digits⟩ := digits_ok
  cases digits with
  | nil => exact absurd rfl digits_ne
  | cons byte digits =>
    have digit := (List.forall_mem_cons.1 all_digits).1
    have no_minus : ¬ascii byte = '-' := by
      intro minus
      rw [@ascii_injective byte 0x2D minus] at digit
      exact absurd digit (by decide)
    have no_plus : ¬ascii byte = '+' := by
      intro plus
      rw [@ascii_injective byte 0x2B plus] at digit
      exact absurd digit (by decide)
    rcases sign_ok with rfl | rfl | rfl
    · simp [exponentSign, no_minus, no_plus, Upto.all]
    · exact ⟨rfl, rfl⟩
    · exact ⟨rfl, rfl⟩

theorem exponentSign_sound (bytes : Bytes) :
    ∃ sign, (sign = [] ∨ sign = [0x2B] ∨ sign = [0x2D]) ∧
      bytes = sign ++ (exponentSign bytes).2.val := by
  unfold exponentSign
  split
  next => exact ⟨[], .inl rfl, rfl⟩
  next byte rest =>
    split
    next minus =>
      rw [@ascii_injective byte 0x2D minus]
      exact ⟨[0x2D], .inr (.inr rfl), rfl⟩
    next =>
      split
      next plus =>
        rw [@ascii_injective byte 0x2B plus]
        exact ⟨[0x2B], .inr (.inl rfl), rfl⟩
      next => exact ⟨[], .inl rfl, rfl⟩

theorem exponentOf_present {letter : UInt8} {sign digits : Bytes}
    (sign_ok : sign = [] ∨ sign = [0x2B] ∨ sign = [0x2D]) (digits_ok : IsDigits digits) :
    exponentOf (letter :: (sign ++ digits)) = some (sign == [0x2D], digits) := by
  have signed := exponentSign_digits sign_ok digits_ok []
  rw [List.append_nil] at signed
  rw [exponentOf, signed.1, signed.2]

theorem exponentPart_sound {bytes : Bytes} {found : Option (Bool × Bytes)} {last : Upto bytes}
    (scanned : exponentPart bytes = .ok (found, last)) :
    ∃ text, IsExponent text ∧ found = exponentOf text ∧ bytes = text ++ last.val := by
  unfold exponentPart at scanned
  split at scanned
  next =>
    cases scanned
    exact ⟨[], .absent, rfl, rfl⟩
  next letter bytes =>
    split at scanned
    next marked =>
      have letter_ok : letter = 0x65 ∨ letter = 0x45 :=
        marked.imp (@ascii_injective letter 0x65) (@ascii_injective letter 0x45)
      obtain ⟨sign, sign_ok, bytes_eq⟩ := exponentSign_sound bytes
      simp only at scanned
      split at scanned
      next found last digits_eq =>
        obtain ⟨found_ok, digits_at⟩ := digits_sound digits_eq
        cases scanned
        refine ⟨letter :: (sign ++ found), .present letter_ok sign_ok found_ok, ?_, ?_⟩
        · rw [exponentOf_present sign_ok found_ok]
          have signed := exponentSign_digits sign_ok found_ok last.val
          rw [← digits_at, ← bytes_eq] at signed
          rw [signed.1]
        · rw [digits_at] at bytes_eq
          rw [List.cons_append, List.append_assoc]
          exact congrArg _ bytes_eq
      next => cases scanned
    next =>
      cases scanned
      exact ⟨[], .absent, rfl, rfl⟩

theorem exponentPart_complete {bytes text rest : Bytes} (text_ok : IsExponent text)
    (avoided : Avoids goesOn rest) (bytes_eq : bytes = text ++ rest) :
    ∃ last, exponentPart bytes = .ok (exponentOf text, last) ∧ last.val = rest := by
  subst bytes_eq
  cases text_ok with
  | absent =>
    cases rest with
    | nil => exact ⟨_, rfl, rfl⟩
    | cons byte rest =>
      have no_letter : ¬(ascii byte = 'e' ∨ ascii byte = 'E') := by
        rintro (small | great)
        · rw [@ascii_injective byte 0x65 small] at avoided
          exact absurd (avoids_cons.1 avoided) (by decide)
        · rw [@ascii_injective byte 0x45 great] at avoided
          exact absurd (avoids_cons.1 avoided) (by decide)
      rw [List.nil_append, exponentPart, if_neg no_letter]
      exact ⟨_, rfl, rfl⟩
  | @present letter sign found letter_ok sign_ok found_ok =>
    have marked : ascii letter = 'e' ∨ ascii letter = 'E' :=
      letter_ok.imp (congrArg ascii) (congrArg ascii)
    have no_digit : Avoids isDigit rest := avoided.mono fun byte none_of => by
      simp only [goesOn, Bool.or_eq_false_iff] at none_of
      exact none_of.1.1.1
    obtain ⟨sign_eq, digits_at⟩ := exponentSign_digits sign_ok found_ok rest
    rw [← List.append_assoc] at sign_eq digits_at
    obtain ⟨last, scanned, last_eq⟩ := digits_complete found_ok no_digit digits_at
    rw [exponentOf_present sign_ok found_ok, List.cons_append, exponentPart, if_pos marked]
    simp only [scanned, sign_eq]
    exact ⟨_, rfl, last_eq⟩

theorem numeral_sound {bytes : Bytes} {found : Numeral} {last : Rest bytes}
    (scanned : numeral bytes = .ok (found, last)) :
    ∃ whole fraction exponent, IsWhole whole ∧ IsFraction fraction ∧ IsExponent exponent ∧
      found = ⟨whole, fraction.tail, exponentOf exponent⟩ ∧
      bytes = whole ++ (fraction ++ (exponent ++ last.val)) := by
  unfold numeral at scanned
  split at scanned
  next => cases scanned
  next whole afterWhole whole_eq =>
    obtain ⟨whole_ok, bytes_eq⟩ := digits_sound whole_eq
    split at scanned
    next => cases scanned
    next no_zero =>
      split at scanned
      next => cases scanned
      next fraction afterFraction fraction_eq =>
        obtain ⟨fractionText, fraction_ok, rfl, afterWhole_eq⟩ := fractionPart_sound fraction_eq
        split at scanned
        next => cases scanned
        next exponent last exponent_eq =>
          obtain ⟨exponentText, exponent_ok, rfl, afterFraction_eq⟩ :=
            exponentPart_sound exponent_eq
          cases scanned
          refine ⟨whole, fractionText, exponentText, ⟨whole_ok, fun zero => ?_⟩, fraction_ok,
            exponent_ok, rfl, ?_⟩
          · exact Decidable.byContradiction fun longer => no_zero ⟨zero, longer⟩
          · exact bytes_eq.trans
              (congrArg _ (afterWhole_eq.trans (congrArg _ afterFraction_eq)))

theorem numeral_complete {bytes whole fraction exponent rest : Bytes} (whole_ok : IsWhole whole)
    (fraction_ok : IsFraction fraction) (exponent_ok : IsExponent exponent)
    (avoided : Avoids goesOn rest)
    (bytes_eq : bytes = whole ++ (fraction ++ (exponent ++ rest))) :
    ∃ last, numeral bytes = .ok (⟨whole, fraction.tail, exponentOf exponent⟩, last) ∧
      last.val = rest := by
  have exponent_avoids :
      Avoids (fun byte => isDigit byte || byte == 0x2E) (exponent ++ rest) := by
    cases exponent_ok with
    | absent =>
      exact avoided.mono fun byte none_of => by
        simp only [goesOn, Bool.or_eq_false_iff] at none_of ⊢
        exact none_of.1.1
    | present letter_ok _ _ =>
      rw [List.cons_append, avoids_cons]
      rcases letter_ok with rfl | rfl <;> rfl
  have fraction_avoids : Avoids isDigit (fraction ++ (exponent ++ rest)) := by
    cases fraction_ok with
    | absent =>
      exact exponent_avoids.mono fun byte none_of => by
        simp only [Bool.or_eq_false_iff] at none_of
        exact none_of.1
    | present _ =>
      rw [List.cons_append, avoids_cons]
      rfl
  have no_zero : ¬(whole.head? = some 0x30 ∧ whole.length ≠ 1) :=
    fun ⟨zero, longer⟩ => longer (whole_ok.2 zero)
  obtain ⟨afterWhole, whole_eq, whole_at⟩ :=
    digits_complete whole_ok.1 fraction_avoids bytes_eq
  obtain ⟨afterFraction, fraction_eq, fraction_at⟩ :=
    fractionPart_complete fraction_ok exponent_avoids whole_at
  obtain ⟨last, exponent_eq, last_eq⟩ :=
    @exponentPart_complete (afterWhole.before afterFraction).val _ _ exponent_ok avoided fraction_at
  unfold numeral
  simp only [whole_eq, if_neg no_zero, fraction_eq, exponent_eq]
  exact ⟨_, rfl, last_eq⟩

/-- Bytes at which a number has ended. -/
def EndsNumber (rest : Bytes) : Prop := Avoids goesOn rest

theorem reads_numeral : Reads numeral (fun _ text => IsNumeral text) EndsNumber := by
  intro bytes found last scanned
  obtain ⟨whole, fraction, exponent, whole_ok, fraction_ok, exponent_ok, found_eq, bytes_eq⟩ :=
    numeral_sound scanned
  refine ⟨whole ++ (fraction ++ exponent), .mk whole_ok fraction_ok exponent_ok, ?_, ?_⟩
  · simpa only [List.append_assoc] using bytes_eq
  · rintro bytes rest ends rfl
    rw [found_eq]
    exact numeral_complete whole_ok fraction_ok exponent_ok ends (by simp only [List.append_assoc])

theorem reads_number (negative : Bool) :
    Reads (number negative) (fun _ text => IsNumeral text) EndsNumber := by
  intro bytes found last scanned
  unfold number at scanned
  split at scanned
  next => cases scanned
  next numeral after numeral_eq =>
    obtain ⟨text, text_ok, bytes_eq, taken⟩ := reads_numeral _ _ _ numeral_eq
    split at scanned
    next => cases scanned
    next value value_eq =>
      cases scanned
      refine ⟨text, text_ok, bytes_eq, fun bytes rest ends bytes_eq => ?_⟩
      obtain ⟨last, scanned, last_eq⟩ := taken bytes rest ends bytes_eq
      refine ⟨last, ?_, last_eq⟩
      simp only [number, scanned, value_eq]

end SignIn.Json
