import Mathlib.Data.Nat.Digits.Defs
import SignIn.Proofs.FieldLines
import SignIn.RetryAfter

/-!
# How long to wait

What an answer's wait is, read off the first value of its header: a number of seconds, or the time
to a date that is still to come.  No number is a date, so one that is too great asks for nothing.
-/

namespace SignIn

/-! ## Numbers -/

namespace RetryAfter

/-- The number that decimal digits denote. -/
def denoted (digits : List Char) : Nat :=
  Nat.ofDigits 10 (digits.reverse.map fun digit => digit.toNat - 0x30)

/-- A text that is a number: digits, at least one, behind at most one plus sign. -/
def IsNumber (text : List Char) (number : Nat) : Prop :=
  ∃ digits, (text = digits ∨ text = '+' :: digits) ∧ digits ≠ [] ∧
    (∀ digit ∈ digits, digit.isDigit = true) ∧ number = denoted digits

theorem foldl_digits (digits : List Char) :
    digits.foldl (fun number digit => number * 10 + (digit.toNat - 0x30)) 0 = denoted digits := by
  rw [denoted, Nat.ofDigits_eq_foldr, List.foldr_map, List.foldr_reverse]
  simp only [Nat.cast_id, Nat.add_comm, Nat.mul_comm]

/-- A text without the plus sign at its start. -/
def unsigned (text : List Char) : List Char :=
  match text with
  | '+' :: rest => rest
  | _ => text

theorem unsigned_of_isDigit {text : List Char} (digits : ∀ digit ∈ text, digit.isDigit = true) :
    unsigned text = text := by
  unfold unsigned
  split
  · have plus := digits '+' List.mem_cons_self
    cases plus
  · rfl

theorem isNumber_iff {text : List Char} {number : Nat} :
    IsNumber text number ↔ (unsigned text ≠ [] ∧ (unsigned text).all Char.isDigit = true) ∧
      number = denoted (unsigned text) := by
  rw [List.all_eq_true]
  constructor
  · rintro ⟨digits, rfl | rfl, digits_ne, all_digits, rfl⟩
    · rw [unsigned_of_isDigit all_digits]
      exact ⟨⟨digits_ne, all_digits⟩, rfl⟩
    · exact ⟨⟨digits_ne, all_digits⟩, rfl⟩
  · rintro ⟨⟨digits_ne, all_digits⟩, number_eq⟩
    refine ⟨unsigned text, ?_, digits_ne, all_digits, number_eq⟩
    unfold unsigned
    split
    · exact .inr rfl
    · exact .inl rfl

/-- A number is read unless it is too great to be one. -/
theorem number?_eq_some_iff {text : List Char} {number : Nat} :
    number? text = some number ↔ IsNumber text number ∧ number ≤ greatestNumber := by
  have read_eq : number? text =
      if unsigned text ≠ [] ∧ (unsigned text).all Char.isDigit = true then
        if denoted (unsigned text) ≤ greatestNumber then some (denoted (unsigned text)) else none
      else none := by
    rw [← foldl_digits]
    rfl
  rw [isNumber_iff, read_eq, Option.ite_none_right_eq_some, Option.ite_none_right_eq_some,
    Option.some.injEq]
  constructor
  · rintro ⟨spelled, small, rfl⟩
    exact ⟨⟨spelled, rfl⟩, small⟩
  · rintro ⟨⟨spelled, rfl⟩, small⟩
    exact ⟨spelled, small, rfl⟩

theorem number?_eq_none_iff {text : List Char} :
    number? text = none ↔ ∀ number, IsNumber text number → greatestNumber < number := by
  simp [Option.eq_none_iff_forall_ne_some, number?_eq_some_iff]

/-- A text is at most one number. -/
theorem IsNumber.unique {text : List Char} {number other : Nat} (is_number : IsNumber text number)
    (is_other : IsNumber text other) : number = other :=
  (isNumber_iff.1 is_number).2.trans (isNumber_iff.1 is_other).2.symm

end RetryAfter

/-! ## Numbers are no dates -/

namespace Date

theorem skipGap_of_head {text : List Char}
    (inner : ∀ char, text.head? = some char → isBlank char = false ∧ char ≠ '(') :
    skipGap text = text := by
  cases text with
  | nil => rw [skipGap]
  | cons char text =>
    obtain ⟨filled, no_comment⟩ := inner char rfl
    rw [skipGap, filled, if_neg Bool.false_ne_true, if_neg no_comment]

theorem gap?_of_head {text : List Char}
    (inner : ∀ char, text.head? = some char → isBlank char = false ∧ char ≠ '(') :
    gap? text = none := by
  rw [gap?, skipGap_of_head inner]
  exact if_neg (Nat.lt_irrefl _)

/-- A character with which a number can start. -/
def StartsNumber (char : Char) : Prop := char = '+' ∨ char.isDigit = true

theorem StartsNumber.inner {char : Char} (starts : StartsNumber char) :
    isBlank char = false ∧ char ≠ '(' := by
  constructor
  · refine Bool.eq_false_iff.2 fun blank => ?_
    rw [isBlank, Bool.or_eq_true, beq_iff_eq, beq_iff_eq] at blank
    rcases blank with rfl | rfl <;> rcases starts with plus | digit <;> contradiction
  · rintro rfl
    rcases starts with plus | digit <;> contradiction

theorem StartsNumber.no_letter {char : Char} (starts : StartsNumber char) :
    char.isAlpha = false := by
  rcases starts with rfl | digit
  · rfl
  · refine Bool.eq_false_iff.2 fun letter => ?_
    have digit_bounds := Text.isDigit_bounds digit
    have letter_bounds := Text.isAlpha_bounds letter
    omega

/-- Words that start with letters are found only where a letter stands. -/
theorem word?_of_head {α : Type} {words : List (String × α)}
    (lettered : words.all (fun word => word.1.toList.head?.any Char.isAlpha) = true) {char : Char}
    (no_letter : char.isAlpha = false) (text : List Char) : word? words (char :: text) = none := by
  refine List.findSome?_eq_none_iff.2 fun word listed => if_neg fun same => ?_
  have first_letter := List.all_eq_true.1 lettered word listed
  rw [← word.1.length_toList] at same
  cases word_eq : word.1.toList with
  | nil =>
    rw [word_eq] at first_letter
    cases first_letter
  | cons first rest =>
    rw [word_eq, List.length_cons, List.take_succ_cons, List.map_cons,
      Text.toLower_of_not_isAlpha no_letter] at same
    rw [word_eq, ← (List.cons.inj same).1, List.head?_cons, Option.any_some,
      no_letter] at first_letter
    cases first_letter

theorem drop_of_number? {count number : Nat} {text rest : List Char}
    (read_eq : number? count text = some (number, rest)) :
    (∀ char ∈ text.take count, char.isDigit = true) ∧ rest = text.drop count := by
  rw [number?, Option.ite_none_right_eq_some, Option.some.injEq, List.all_eq_true] at read_eq
  obtain ⟨⟨-, digits⟩, pair_eq⟩ := read_eq
  exact ⟨digits, (Prod.mk.inj pair_eq).2.symm⟩

section

variable {text : List Char} {number : Nat}

theorem startsNumber_of_head? (is_number : RetryAfter.IsNumber text number) {char : Char}
    (head : text.head? = some char) : StartsNumber char := by
  obtain ⟨digits, rfl | rfl, -, all_digits, -⟩ := is_number
  · exact .inr (all_digits char (List.mem_of_head? head))
  · cases head
    exact .inl rfl

theorem skipWeekday?_of_isNumber (is_number : RetryAfter.IsNumber text number) :
    skipWeekday? text = some text := by
  cases text with
  | nil => rfl
  | cons char text =>
    rw [skipWeekday?, word?_of_head (by decide) (startsNumber_of_head? is_number rfl).no_letter]

/-- What a number leaves behind its first digits starts with no gap. -/
theorem gap?_of_day? (is_number : RetryAfter.IsNumber text number) {day : Nat} {rest : List Char}
    (day_eq : day? text = some (day, rest)) : gap? rest = none := by
  have counted : ∃ count, 0 < count ∧ number? count text = some (day, rest) := by
    rcases Option.or_eq_some_iff.1 day_eq with two | ⟨-, one⟩
    · exact ⟨2, Nat.two_pos, two⟩
    · exact ⟨1, Nat.one_pos, one⟩
  obtain ⟨count, positive, number_eq⟩ := counted
  obtain ⟨taken, rfl⟩ := drop_of_number? number_eq
  obtain ⟨digits, rfl | rfl, -, all_digits, -⟩ := is_number
  · refine gap?_of_head fun char head => StartsNumber.inner (.inr (all_digits char ?_))
    exact List.mem_of_mem_drop (List.mem_of_head? head)
  · obtain ⟨before, rfl⟩ := Nat.exists_eq_succ_of_ne_zero positive.ne'
    have plus := taken '+' (by simp)
    cases plus

/-- Behind the day of a date there is a gap, but in a number there is none. -/
theorem read?_of_isNumber (is_number : RetryAfter.IsNumber text number) : read? text = none := by
  have start_eq : skipGap text = text :=
    skipGap_of_head fun char head => (startsNumber_of_head? is_number head).inner
  have no_parts : parts? text = none := by
    rw [parts?, start_eq, skipWeekday?_of_isNumber is_number]
    change (day? text).bind _ = none
    cases day_eq : day? text with
    | none => rfl
    | some found =>
      obtain ⟨day, rest⟩ := found
      change (gap? rest).bind _ = none
      rw [gap?_of_day? is_number day_eq]
      rfl
  rw [read?, no_parts]

end

end Date

/-! ## Values -/

namespace RetryAfter

/-- What a trimmed value asks for at a given moment. -/
structure Asks (now : Moment) (value : List Char) (wait : Option Duration) : Prop where
  /-- A number is one of whole seconds; what 63 binary digits cannot tell is not counted. -/
  number : ∀ number, IsNumber value number →
    wait = if number ≤ 2 ^ 63 - 1 then some (.ofSeconds number) else none
  /-- A date that is still to come asks to wait until then, and any other for nothing. -/
  date : (∀ number, ¬IsNumber value number) → ∀ moment, Date.read? value = some moment →
    wait = if now.nanoseconds < moment.nanoseconds then some (now.until moment) else none
  /-- What is neither asks for nothing. -/
  other : (∀ number, ¬IsNumber value number) → Date.read? value = none → wait = none

theorem asks_ofValue (now : Moment) {value : List Char} (trimmed : Text.trim value = value) :
    Asks now value (ofValue now value) := by
  have no_number_read : (∀ number, ¬IsNumber value number) → number? value = none := fun none_is =>
    number?_eq_none_iff.2 fun number is_number => absurd is_number (none_is number)
  refine ⟨fun number is_number => ?_, fun none_is moment date_eq => ?_, fun none_is no_date => ?_⟩
  · rw [ofValue, trimmed]
    by_cases small : number ≤ greatestNumber
    · rw [number?_eq_some_iff.2 ⟨is_number, small⟩]
      rfl
    · have unread : number? value = none := number?_eq_none_iff.2 fun other is_other =>
        is_number.unique is_other ▸ Nat.lt_of_not_le small
      rw [unread, Date.read?_of_isNumber is_number,
        if_neg (by unfold greatestNumber at small; omega)]
  · simp only [ofValue, trimmed, no_number_read none_is, date_eq]
  · simp only [ofValue, trimmed, no_number_read none_is, no_date]

theorem Asks.nonneg {now : Moment} {value : List Char} {wait : Duration}
    (asks : Asks now value (some wait)) :
    0 ≤ wait.nanoseconds ∧ ((∀ number, ¬IsNumber value number) → 0 < wait.nanoseconds) := by
  by_cases is_number : ∃ number, IsNumber value number
  · obtain ⟨number, is_number⟩ := is_number
    have wait_eq := asks.number number is_number
    rw [eq_comm, Option.ite_none_right_eq_some, Option.some.injEq] at wait_eq
    obtain ⟨-, rfl⟩ := wait_eq
    refine ⟨?_, fun none_is => absurd is_number (none_is number)⟩
    exact Int.mul_nonneg (Int.natCast_nonneg number) (by decide)
  · rw [not_exists] at is_number
    have positive : 0 < wait.nanoseconds := by
      cases date_eq : Date.read? value with
      | none => cases asks.other is_number date_eq
      | some moment =>
        have wait_eq := asks.date is_number moment date_eq
        rw [eq_comm, Option.ite_none_right_eq_some, Option.some.injEq] at wait_eq
        obtain ⟨ahead, rfl⟩ := wait_eq
        exact Int.sub_pos_of_lt ahead
    exact ⟨Int.le_of_lt positive, fun _ => positive⟩

/-! ## Answers -/

/-- The first value of the header in fields, decoded and trimmed. -/
def told? (fields : Http.Fields) : Option (List Char) :=
  (fields.pairs.find? fun pair => pair.1.text == name).map fun pair =>
    Text.trim (Utf8.decodeLossy pair.2.bytes)

theorem trim_of_told? {fields : Http.Fields} {value : List Char}
    (told : told? fields = some value) :
    Text.trim value = value := by
  obtain ⟨pair, -, rfl⟩ := Option.map_eq_some_iff.1 told
  exact Text.trim_trim _

theorem lowerCase_name : Text.lowerCase name = name := by decide +kernel

/-- The wait of a message whose lines are those of fields. -/
theorem ofMessage_eq (now : Moment) (first : String) (fields : Http.Fields) (body : Bytes) :
    ofMessage now ⟨first :: fields.lines, body⟩ = (told? fields).bind (ofValue now) := by
  obtain ⟨headers, read_eq, -, get_eq⟩ := Headers.ofHead_of_readable first fields.readable_lines
  have single_eq : (Message.mk (first :: fields.lines) body).single name = headers.single name := by
    rw [Message.single, Message.headers, read_eq]
    rfl
  have head_eq : (headers.get name).head? = (told? fields).map String.ofList := by
    rw [get_eq, lowerCase_name, fields.filterMap_readLine?_lines, Headers.valuesOf, List.head?_map,
      List.head?_filter, Http.Fields.shownPairs, List.find?_map, told?, Option.map_map,
      Option.map_map]
    rfl
  rw [ofMessage, single_eq, Headers.single, head_eq]
  cases told? fields with
  | none => rfl
  | some value => simp

/-- Every answer asks for what the first value of the header says, decoded and trimmed: a number of
whole seconds, or the exact time to a date; without the header it asks for nothing.  No wait is
negative, and one up to a date is positive.  Nothing else in the answer matters, in particular no
later value. -/
theorem wait_of_first_value (now : Moment) (response : Http.Response) :
    (told? response.fields = none → ofMessage now response.message = none) ∧
    (∀ value, told? response.fields = some value →
      Asks now value (ofMessage now response.message)) ∧
    (∀ wait, ofMessage now response.message = some wait → 0 ≤ wait.nanoseconds ∧
      ∀ value, told? response.fields = some value → (∀ number, ¬IsNumber value number) →
        0 < wait.nanoseconds) ∧
    ∀ other : Http.Response, told? other.fields = told? response.fields →
      ofMessage now other.message = ofMessage now response.message := by
  have message_eq (response : Http.Response) :
      ofMessage now response.message = (told? response.fields).bind (ofValue now) :=
    ofMessage_eq now response.line response.fields response.body
  have asks : ∀ value, told? response.fields = some value →
      Asks now value (ofMessage now response.message) := by
    intro value told
    rw [message_eq, told]
    exact asks_ofValue now (trim_of_told? told)
  refine ⟨fun absent => ?_, asks, fun wait wait_eq => ?_, fun other same => ?_⟩
  · rw [message_eq, absent, Option.bind_none]
  · rw [wait_eq] at asks
    cases told : told? response.fields with
    | none =>
      rw [message_eq, told] at wait_eq
      cases wait_eq
    | some value =>
      obtain ⟨nonneg, positive⟩ := (asks value told).nonneg
      refine ⟨nonneg, ?_⟩
      rintro _ ⟨⟩
      exact positive
  · rw [message_eq, same, ← message_eq]

/-- A number with a sign, blanks and a zero in front, with and without a second value behind it; a
number of 65 binary digits; a date three quarters of a second ahead. -/
theorem wait_of_first_value_odd :
    let now : Moment := ⟨1445412479250000000⟩
    let answer (values : List String) : Except Http.Fault Http.Response :=
      Http.Response.build 503 .http11
        (values.map fun value => ("Retry-After", Utf8.encode value.toList)) []
    ∃ signed repeated great dated, answer [" +0120 "] = .ok signed ∧
      answer [" +0120 ", "7"] = .ok repeated ∧ answer ["18446744073709551616", "7"] = .ok great ∧
      answer ["Wed, 21 Oct 2015 07:28:00 GMT"] = .ok dated ∧
      ofMessage now signed.message = some (.ofSeconds 120) ∧
      ofMessage now repeated.message = ofMessage now signed.message ∧
      ofMessage now great.message = none ∧
      ofMessage now dated.message = some ⟨750000000⟩ := by
  intro now answer
  have built : ∃ signed repeated great dated, answer [" +0120 "] = .ok signed ∧
      answer [" +0120 ", "7"] = .ok repeated ∧ answer ["18446744073709551616", "7"] = .ok great ∧
      answer ["Wed, 21 Oct 2015 07:28:00 GMT"] = .ok dated ∧
      told? signed.fields = some "+0120".toList ∧ told? repeated.fields = some "+0120".toList ∧
      told? great.fields = some "18446744073709551616".toList ∧
      told? dated.fields = some "Wed, 21 Oct 2015 07:28:00 GMT".toList :=
    ⟨_, _, _, _, rfl, rfl, rfl, rfl, by decide +kernel, by decide +kernel, by decide +kernel,
      by decide +kernel⟩
  obtain ⟨signed, repeated, great, dated, signed_eq, repeated_eq, great_eq, dated_eq, signed_told,
    repeated_told, great_told, dated_told⟩ := built
  have signed_number : IsNumber "+0120".toList 120 := isNumber_iff.2 (by decide)
  have great_number : IsNumber "18446744073709551616".toList 18446744073709551616 :=
    isNumber_iff.2 (by decide)
  have no_number : ∀ number, ¬IsNumber "Wed, 21 Oct 2015 07:28:00 GMT".toList number :=
    fun number is_number => absurd (isNumber_iff.1 is_number).1 (by decide)
  have date_eq : Date.read? "Wed, 21 Oct 2015 07:28:00 GMT".toList =
      some ⟨1445412480000000000⟩ := by decide +kernel
  obtain ⟨-, signed_asks, -, signed_only⟩ := wait_of_first_value now signed
  obtain ⟨-, great_asks, -, -⟩ := wait_of_first_value now great
  obtain ⟨-, dated_asks, -, -⟩ := wait_of_first_value now dated
  exact ⟨signed, repeated, great, dated, signed_eq, repeated_eq, great_eq, dated_eq,
    (signed_asks _ signed_told).number 120 signed_number,
    signed_only repeated (repeated_told.trans signed_told.symm),
    (great_asks _ great_told).number _ great_number,
    (dated_asks _ dated_told).date no_number _ date_eq⟩

end RetryAfter

end SignIn
