import SignIn.Proofs.Json.Scanning

/-!
# Strings

A string that is read is Unicode, and so are the bytes that spell it.  A string that is passed over
is checked for its escapes only.
-/

namespace SignIn.Json

/-! ## Escapes -/

theorem lt_of_hexValue?_isSome {byte : UInt8} (digit : (hexValue? byte).isSome = true) :
    byte < 0x80 := by
  rw [UInt8.lt_iff_toNat_lt]
  change _ < 128
  unfold hexValue? at digit
  split at digit
  next decimal =>
    simp only [isDigit, Bool.and_eq_true, decide_eq_true_eq, UInt8.le_iff_toNat_le] at decimal
    exact Nat.lt_of_le_of_lt decimal.2 (by decide)
  next =>
    split at digit
    next upper => exact Nat.lt_of_le_of_lt (UInt8.le_iff_toNat_le.1 upper.2) (by decide)
    next =>
      split at digit
      next lower => exact Nat.lt_of_le_of_lt (UInt8.le_iff_toNat_le.1 lower.2) (by decide)
      next => cases digit

theorem lt_of_simpleEscape?_isSome {letter : UInt8}
    (simple : (simpleEscape? letter).isSome = true) : letter < 0x80 := by
  rw [UInt8.lt_iff_toNat_lt]
  change (ascii letter).toNat < 128
  unfold simpleEscape? at simple
  split at simple
  case h_9 => cases simple
  all_goals
    next letter_eq =>
      rw [letter_eq]
      decide

theorem reads_hexEscape : Reads hexEscape (fun _ text => IsHex text) Anything := by
  intro bytes unit last scanned
  unfold hexEscape at scanned
  split at scanned
  next first second third fourth rest =>
    split at scanned
    next a b c d first_eq second_eq third_eq fourth_eq =>
      cases scanned
      refine ⟨[first, second, third, fourth], ⟨rfl, ?_⟩, rfl, ?_⟩
      · simp [first_eq, second_eq, third_eq, fourth_eq]
      · rintro bytes rest _ rfl
        simp only [hexEscape, List.cons_append, first_eq, second_eq, third_eq, fourth_eq]
        exact ⟨_, rfl, rfl⟩
    next => cases scanned
  next => cases scanned

/-- What follows the backslash of an escape or of a surrogate pair. -/
def IsEscapes (bytes : Bytes) : Prop :=
  IsEscape bytes ∨
    ∃ first second, IsEscape first ∧ IsEscape second ∧ bytes = first ++ 0x5C :: second

theorem reads_lowSurrogate :
    Reads lowSurrogate (fun _ text => ∃ code, IsHex code ∧ text = 0x5C :: 0x75 :: code)
      Anything := by
  intro bytes unit last scanned
  unfold lowSurrogate at scanned
  split at scanned
  next => cases scanned
  next slash rest =>
    split at scanned
    next slash_eq =>
      split at scanned
      next => cases scanned
      next letter tail =>
        split at scanned
        next letter_eq =>
          split at scanned
          next => cases scanned
          next unit after hex_eq =>
            obtain ⟨code, code_ok, tail_eq, taken⟩ := reads_hexEscape _ _ _ hex_eq
            split at scanned
            next low =>
              cases scanned
              rw [@ascii_injective slash 0x5C slash_eq, @ascii_injective letter 0x75 letter_eq]
              refine ⟨_, ⟨code, code_ok, rfl⟩, ?_, ?_⟩
              · exact congrArg _ (congrArg _ tail_eq)
              · rintro bytes rest follows rfl
                obtain ⟨last, scanned, last_eq⟩ := taken (code ++ rest) rest follows rfl
                simp only [List.cons_append, lowSurrogate, show ascii 0x5C = '\\' from rfl,
                  show ascii 0x75 = 'u' from rfl, if_true, scanned, if_pos low]
                exact ⟨_, rfl, last_eq⟩
            next => cases scanned
        next => cases scanned
    next => cases scanned

theorem reads_escapeBody : Reads escapeBody (fun _ text => IsEscapes text) Anything := by
  intro bytes char last scanned
  unfold escapeBody at scanned
  split at scanned
  next => cases scanned
  next letter rest =>
    split at scanned
    next simple simple_eq =>
      cases scanned
      refine ⟨[letter], .inl (.simple (by rw [simple_eq]; rfl)), rfl, ?_⟩
      rintro bytes rest _ rfl
      simp only [List.cons_append, escapeBody, simple_eq]
      exact ⟨_, rfl, rfl⟩
    next simple_eq =>
      split at scanned
      next letter_eq =>
        have letter_is := @ascii_injective letter 0x75 letter_eq
        subst letter_is
        split at scanned
        next => cases scanned
        next unit after hex_eq =>
          obtain ⟨code, code_ok, rest_eq, taken⟩ := reads_hexEscape _ _ _ hex_eq
          split at scanned
          next => cases scanned
          next not_low =>
            split at scanned
            next high =>
              split at scanned
              next => cases scanned
              next low last low_eq =>
                obtain ⟨_, ⟨lowCode, lowCode_ok, rfl⟩, after_eq, lowTaken⟩ :=
                  reads_lowSurrogate _ _ _ low_eq
                rw [Except.ok.injEq, Prod.mk.injEq] at scanned
                obtain ⟨rfl, rfl⟩ := scanned
                refine ⟨0x75 :: (code ++ 0x5C :: 0x75 :: lowCode),
                  .inr ⟨_, _, .unicode code_ok, .unicode lowCode_ok, rfl⟩, ?_, ?_⟩
                · have both_eq := rest_eq.trans (congrArg (code ++ ·) after_eq)
                  rw [← List.append_assoc] at both_eq
                  exact congrArg (0x75 :: ·) both_eq
                · rintro bytes rest _ rfl
                  rw [List.cons_append]
                  generalize tail_eq : code ++ 0x5C :: 0x75 :: lowCode ++ rest = tail
                  rw [List.append_assoc] at tail_eq
                  obtain ⟨after, scanned, after_eq⟩ := taken tail _ trivial tail_eq.symm
                  obtain ⟨last, lowScanned, last_eq⟩ := lowTaken _ rest trivial after_eq
                  simp only [escapeBody, simple_eq, letter_eq, if_true, scanned, if_neg not_low,
                    if_pos high, lowScanned]
                  exact ⟨_, rfl, last_eq⟩
            next not_high =>
              cases scanned
              refine ⟨0x75 :: code, .inl (.unicode code_ok), congrArg _ rest_eq, ?_⟩
              rintro bytes rest follows rfl
              obtain ⟨last, scanned, last_eq⟩ := taken (code ++ rest) rest follows rfl
              simp only [List.cons_append, escapeBody, simple_eq, letter_eq, if_true, scanned,
                if_neg not_low, if_neg not_high]
              exact ⟨_, rfl, last_eq⟩
      next => cases scanned

theorem IsEscape.plain {escape : Bytes} (escape_ok : IsEscape escape) :
    ∀ byte ∈ escape, byte < 0x80 := by
  cases escape_ok with
  | simple letter_ok =>
    intro byte member
    rw [List.mem_singleton.1 member]
    exact lt_of_simpleEscape?_isSome letter_ok
  | unicode code_ok =>
    intro byte member
    rcases List.mem_cons.1 member with rfl | later
    · decide
    · exact lt_of_hexValue?_isSome (code_ok.2 byte later)

/-- Before a string ends there may be more of it. -/
theorem IsEscapes.string {plain escapes rest : Bytes} (escapes_ok : IsEscapes escapes)
    (plain_ok : IsPlain plain) (rest_ok : IsString rest) :
    IsString (plain ++ 0x5C :: (escapes ++ rest)) := by
  rcases escapes_ok with escape_ok | ⟨first, second, first_ok, second_ok, rfl⟩
  · exact .escaped plain_ok escape_ok rest_ok
  · have second_string : IsString ([] ++ 0x5C :: (second ++ rest)) :=
      .escaped (List.forall_mem_nil _) second_ok rest_ok
    rw [List.append_assoc]
    exact .escaped plain_ok first_ok second_string

theorem IsEscapes.plain {escapes : Bytes} (escapes_ok : IsEscapes escapes) :
    ∀ byte ∈ escapes, byte < 0x80 := by
  rcases escapes_ok with escape_ok | ⟨first, second, first_ok, second_ok, rfl⟩
  · exact escape_ok.plain
  · intro byte member
    rcases List.mem_append.1 member with earlier | later
    · exact first_ok.plain byte earlier
    · rcases List.mem_cons.1 later with rfl | later
      · decide
      · exact second_ok.plain byte later

/-! ## Strings that are read -/

/-- The bytes of a string are Unicode if its content is. -/
theorem wellFormed_escaped {plain escapes rest more : Bytes} {char : Char}
    (escapes_ok : IsEscapes escapes) (more_ok : Utf8.WellFormed more → Utf8.WellFormed rest)
    (content_ok : Utf8.WellFormed (plain ++ String.utf8EncodeChar char ++ more)) :
    Utf8.WellFormed (plain ++ 0x5C :: (escapes ++ rest)) := by
  rw [List.append_assoc] at content_ok
  obtain ⟨plain_ok, behind_ok⟩ := content_ok.split (Utf8.startsAnew_encodeChar char more)
  refine plain_ok.append ((Utf8.wellFormed_cons (by decide)).2 ?_)
  exact (Utf8.wellFormed_of_plain escapes_ok.plain).append
    (more_ok (Utf8.wellFormed_encodeChar_append.1 behind_ok))

/-- What a string is read to be, and what it is spelled as. -/
def IsStringOf (content text : Bytes) : Prop :=
  IsString text ∧ (Utf8.WellFormed content → Utf8.WellFormed text)

theorem stringBytes_closed {bytes plain rest : Bytes} (plain_ok : IsPlain plain)
    (bytes_eq : bytes = plain ++ 0x22 :: rest) :
    ∃ last, stringBytes bytes = .ok (plain, last) ∧ last.val = rest := by
  obtain ⟨last, found, last_eq⟩ := firstOther?_complete plain_ok rfl bytes_eq
  have plain_eq : bytes.takeWhile isPlain = plain := by
    rw [bytes_eq]
    exact (Text.cut_append plain_ok (avoids_cons.2 rfl)).1
  rw [stringBytes]
  simp only [found, plain_eq, show ascii 0x22 = '"' from rfl, if_true]
  exact ⟨_, rfl, last_eq⟩

theorem stringBytes_escaped {bytes plain escapes others more rest : Bytes} {char : Char}
    (plain_ok : IsPlain plain) (bytes_eq : bytes = plain ++ 0x5C :: (escapes ++ others))
    (escaped : Takes escapeBody Anything char escapes)
    (taken : ∀ place, place = others →
      ∃ last, stringBytes place = .ok (more, last) ∧ last.val = rest) :
    ∃ last, stringBytes bytes = .ok (plain ++ String.utf8EncodeChar char ++ more, last) ∧
      last.val = rest := by
  obtain ⟨start, found, start_eq⟩ := firstOther?_complete plain_ok rfl bytes_eq
  have plain_eq : bytes.takeWhile isPlain = plain := by
    rw [bytes_eq]
    exact (Text.cut_append plain_ok (avoids_cons.2 rfl)).1
  obtain ⟨after, escape_eq, after_eq⟩ := escaped _ _ trivial start_eq
  obtain ⟨last, more_eq, last_eq⟩ := taken _ after_eq
  rw [stringBytes]
  simp only [found, plain_eq, if_neg (show ¬ascii 0x5C = '"' by decide),
    if_pos (show ascii 0x5C = '\\' from rfl), escape_eq, more_eq]
  exact ⟨_, rfl, last_eq⟩

theorem reads_stringBytes : Reads stringBytes IsStringOf Anything := by
  intro bytes content last scanned
  induction size : bytes.length using Nat.strongRecOn generalizing bytes content with
  | ind length ih =>
    subst size
    rw [stringBytes] at scanned
    split at scanned
    next => cases scanned
    next byte rest found =>
      obtain ⟨stops, bytes_eq⟩ := firstOther?_sound found
      have plain_ok : IsPlain (bytes.takeWhile isPlain) := takeWhile_kept _ _
      split at scanned
      next quote =>
        rw [@ascii_injective byte 0x22 quote] at stops bytes_eq
        rw [Except.ok.injEq, Prod.mk.injEq] at scanned
        obtain ⟨rfl, rfl⟩ := scanned
        refine ⟨bytes.takeWhile isPlain ++ [0x22], ⟨.closed plain_ok, fun content_ok => ?_⟩, ?_, ?_⟩
        · have quote_plain : ∀ byte ∈ [(0x22 : UInt8)], byte < 0x80 :=
            List.forall_mem_singleton.2 (by decide)
          exact content_ok.append (Utf8.wellFormed_of_plain quote_plain)
        · rw [List.append_assoc]
          exact bytes_eq
        · rintro others rest _ rfl
          exact stringBytes_closed plain_ok (List.append_assoc _ _ _)
      next =>
        split at scanned
        next slash =>
          split at scanned
          next => cases scanned
          next char after escape_eq =>
            split at scanned
            next => cases scanned
            next more final more_eq =>
              rw [@ascii_injective byte 0x5C slash] at bytes_eq
              rw [Except.ok.injEq, Prod.mk.injEq] at scanned
              obtain ⟨rfl, rfl⟩ := scanned
              obtain ⟨escapes, escapes_ok, rest_eq, escaped⟩ := reads_escapeBody _ _ _ escape_eq
              obtain ⟨text, ⟨text_ok, unicode⟩, after_eq, taken⟩ :=
                ih _ (Nat.lt_trans after.shorter rest.shorter) _ _ _ more_eq rfl
              have rest_eq := rest_eq.trans (congrArg (escapes ++ ·) after_eq)
              refine ⟨bytes.takeWhile isPlain ++ 0x5C :: (escapes ++ text),
                ⟨escapes_ok.string plain_ok text_ok, wellFormed_escaped escapes_ok unicode⟩, ?_, ?_⟩
              · simp only [List.append_assoc, List.cons_append]
                exact bytes_eq.trans (congrArg (_ ++ 0x5C :: ·) rest_eq)
              · rintro others rest _ rfl
                refine stringBytes_escaped plain_ok ?_ escaped fun place place_eq =>
                  taken place rest trivial place_eq
                simp only [List.append_assoc, List.cons_append]
        next => cases scanned

/-- What a text is spelled as. -/
def IsTextOf (_ : String) (text : Bytes) : Prop := IsText text

theorem reads_stringBody : Reads stringBody IsTextOf Anything := by
  intro bytes content last scanned
  unfold stringBody at scanned
  split at scanned
  next => cases scanned
  next found last found_eq =>
    obtain ⟨text, ⟨text_ok, unicode⟩, bytes_eq, taken⟩ := reads_stringBytes _ _ _ found_eq
    split at scanned
    next => cases scanned
    next chars decoded =>
      cases scanned
      refine ⟨text, ⟨text_ok, unicode (Utf8.wellFormed_of_decode decoded)⟩, bytes_eq, ?_⟩
      intro others rest follows others_eq
      obtain ⟨final, final_eq, final_at⟩ := taken others rest follows others_eq
      refine ⟨final, ?_, final_at⟩
      simp only [stringBody, final_eq, decoded]

/-! ## Strings that are passed over -/

theorem hexEscape_complete {bytes code rest : Bytes} (code_ok : IsHex code)
    (bytes_eq : bytes = code ++ rest) :
    ∃ unit last, hexEscape bytes = .ok (unit, last) ∧ last.val = rest := by
  subst bytes_eq
  obtain ⟨length_eq, digits_ok⟩ := code_ok
  match code, length_eq with
  | [first, second, third, fourth], _ =>
    simp only [List.forall_mem_cons, Option.isSome_iff_exists] at digits_ok
    obtain ⟨⟨a, first_eq⟩, ⟨b, second_eq⟩, ⟨c, third_eq⟩, ⟨d, fourth_eq⟩, _⟩ := digits_ok
    simp only [List.cons_append, List.nil_append, hexEscape, first_eq, second_eq, third_eq,
      fourth_eq]
    exact ⟨_, _, rfl, rfl⟩

theorem skipEscape_sound {bytes : Bytes} {last : Rest bytes}
    (passed : skipEscape bytes = .ok last) :
    ∃ text, IsEscape text ∧ bytes = text ++ last.val := by
  unfold skipEscape at passed
  split at passed
  next => cases passed
  next letter rest =>
    split at passed
    next simple =>
      cases passed
      exact ⟨[letter], .simple simple, rfl⟩
    next =>
      split at passed
      next letter_eq =>
        split at passed
        next => cases passed
        next unit after hex_eq =>
          cases passed
          obtain ⟨code, code_ok, rest_eq, _⟩ := reads_hexEscape _ _ _ hex_eq
          rw [@ascii_injective letter 0x75 letter_eq]
          exact ⟨0x75 :: code, .unicode code_ok, congrArg (0x75 :: ·) rest_eq⟩
      next => cases passed

theorem skipEscape_complete {bytes text rest : Bytes} (text_ok : IsEscape text)
    (bytes_eq : bytes = text ++ rest) :
    ∃ last, skipEscape bytes = .ok last ∧ last.val = rest := by
  subst bytes_eq
  cases text_ok with
  | @simple letter letter_ok =>
    rw [List.cons_append, skipEscape, if_pos letter_ok]
    exact ⟨_, rfl, rfl⟩
  | @unicode code code_ok =>
    obtain ⟨unit, last, hex_eq, last_eq⟩ := @hexEscape_complete _ _ rest code_ok rfl
    rw [List.cons_append, skipEscape, if_neg (by decide), if_pos (show ascii 0x75 = 'u' from rfl),
      hex_eq]
    exact ⟨_, rfl, last_eq⟩

theorem skipString_sound {bytes : Bytes} {last : Rest bytes}
    (passed : skipString bytes = .ok last) :
    ∃ text, IsString text ∧ bytes = text ++ last.val := by
  induction size : bytes.length using Nat.strongRecOn generalizing bytes with
  | ind length ih =>
    subst size
    rw [skipString] at passed
    split at passed
    next => cases passed
    next byte rest found =>
      obtain ⟨stops, bytes_eq⟩ := firstOther?_sound found
      have plain_ok : IsPlain (bytes.takeWhile isPlain) := takeWhile_kept _ _
      split at passed
      next quote =>
        rw [@ascii_injective byte 0x22 quote] at bytes_eq
        cases passed
        refine ⟨_, .closed plain_ok, ?_⟩
        rw [List.append_assoc]
        exact bytes_eq
      next =>
        split at passed
        next slash =>
          rw [@ascii_injective byte 0x5C slash] at bytes_eq
          split at passed
          next => cases passed
          next after escape_eq =>
            obtain ⟨escape, escape_ok, rest_eq⟩ := skipEscape_sound escape_eq
            split at passed
            next => cases passed
            next final more_eq =>
              cases passed
              obtain ⟨text, text_ok, after_eq⟩ :=
                ih _ (Nat.lt_trans after.shorter rest.shorter) more_eq rfl
              have rest_eq := rest_eq.trans (congrArg (escape ++ ·) after_eq)
              refine ⟨_, .escaped plain_ok escape_ok text_ok, ?_⟩
              simp only [List.append_assoc, List.cons_append]
              exact bytes_eq.trans (congrArg (_ ++ 0x5C :: ·) rest_eq)
        next => cases passed

theorem skipString_complete {bytes text rest : Bytes} (text_ok : IsString text)
    (bytes_eq : bytes = text ++ rest) :
    ∃ last, skipString bytes = .ok last ∧ last.val = rest := by
  induction text_ok generalizing bytes with
  | closed plain_ok =>
    rw [List.append_assoc] at bytes_eq
    obtain ⟨last, found, last_eq⟩ := firstOther?_complete plain_ok rfl bytes_eq
    rw [skipString]
    simp only [found, if_pos (show ascii 0x22 = '"' from rfl)]
    exact ⟨_, rfl, last_eq⟩
  | escaped plain_ok escape_ok _ ih =>
    simp only [List.append_assoc, List.cons_append] at bytes_eq
    obtain ⟨start, found, start_eq⟩ := firstOther?_complete plain_ok rfl bytes_eq
    obtain ⟨after, escape_eq, after_eq⟩ := skipEscape_complete escape_ok start_eq
    obtain ⟨last, more_eq, last_eq⟩ := ih after_eq
    rw [skipString]
    simp only [found, if_neg (show ¬ascii 0x5C = '"' by decide),
      if_pos (show ascii 0x5C = '\\' from rfl), escape_eq, more_eq]
    exact ⟨_, rfl, last_eq⟩

end SignIn.Json
