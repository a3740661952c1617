import SignIn.Proofs.Json.Numbers
import SignIn.Proofs.Json.Strings

/-!
# Passing over values

What is passed over is one value of the grammar, whatever its strings hold, and every such value is
passed over.
-/

namespace SignIn.Json

/-! ## First bytes -/

theorem isSpace_closing (frame : Frame) : isSpace frame.closing = false := by
  cases frame <;> rfl

theorem isSpace_opening (frame : Frame) : isSpace frame.opening = false := by
  cases frame <;> rfl

theorem IsNumeral.head {text : Bytes} (text_ok : IsNumeral text) :
    ∃ byte more, text = byte :: more ∧ isDigit byte = true := by
  cases text_ok with
  | @mk whole fraction exponent whole_ok _ _ =>
    cases whole with
    | nil => exact absurd rfl whole_ok.1.1
    | cons byte more =>
      exact ⟨byte, more ++ (fraction ++ exponent), rfl, whole_ok.1.2 byte List.mem_cons_self⟩

theorem digit_ne {byte other : UInt8} (digit : isDigit byte = true)
    (other_ok : isDigit other = false) : ¬ascii byte = ascii other := by
  intro same
  rw [ascii_injective same, other_ok] at digit
  cases digit

/-- A value without parts starts with neither a blank nor a bracket. -/
theorem IsScalar.head {Str : Bytes → Prop} {text : Bytes} (text_ok : IsScalar Str text) :
    ∃ byte more, text = byte :: more ∧ isSpace byte = false ∧ opened? byte = none ∧
      ∀ frame : Frame, byte ≠ frame.closing := by
  have closing_ne : ∀ {byte : UInt8}, byte ≠ 0x5D → byte ≠ 0x7D →
      ∀ frame : Frame, byte ≠ frame.closing := by
    intro byte bracket brace frame
    cases frame
    · exact bracket
    · exact brace
  cases text_ok with
  | null => exact ⟨_, _, rfl, rfl, rfl, closing_ne (by decide) (by decide)⟩
  | isTrue => exact ⟨_, _, rfl, rfl, rfl, closing_ne (by decide) (by decide)⟩
  | isFalse => exact ⟨_, _, rfl, rfl, rfl, closing_ne (by decide) (by decide)⟩
  | string _ => exact ⟨_, _, rfl, rfl, rfl, closing_ne (by decide) (by decide)⟩
  | number text_ok =>
    cases text_ok with
    | negative _ => exact ⟨_, _, rfl, rfl, rfl, closing_ne (by decide) (by decide)⟩
    | unsigned text_ok =>
      obtain ⟨byte, more, rfl, digit⟩ := text_ok.head
      refine ⟨byte, more, rfl, ?_, ?_, closing_ne ?_ ?_⟩
      · by_cases space : isSpace byte = true
        · simp only [isSpace, Bool.or_eq_true, beq_iff_eq] at space
          rcases space with ((rfl | rfl) | rfl) | rfl <;> cases digit
        · simpa using space
      · cases opened : opened? byte with
        | none => rfl
        | some frame =>
          rw [opened?_eq_some_iff.1 opened] at digit
          cases frame <;> cases digit
      · rintro rfl
        cases digit
      · rintro rfl
        cases digit

/-- A part starts, after blanks, with something else than its container's end. -/
theorem Derives.part_head {Str : Bytes → Prop} {frame : Frame} {text : Bytes}
    (derived : Derives Str (.part frame) text) :
    ∃ blank byte more, IsBlank blank ∧ text = blank ++ byte :: more ∧ isSpace byte = false ∧
      byte ≠ frame.closing := by
  cases derived with
  | @member blank _ _ _ blank_ok _ _ _ =>
    exact ⟨blank, 0x22, _, blank_ok, rfl, rfl, by decide⟩
  | item value_ok =>
    cases value_ok with
    | @scalar blank _ blank_ok scalar_ok =>
      obtain ⟨byte, more, rfl, not_space, _, closing_ne⟩ := scalar_ok.head
      exact ⟨blank, byte, more, blank_ok, rfl, not_space, closing_ne .array⟩
    | @container frame blank _ blank_ok _ =>
      exact ⟨blank, frame.opening, _, blank_ok, rfl, isSpace_opening frame,
        by cases frame <;> decide⟩

/-! ## Values without parts -/

theorem skipNumber_sound {bytes : Bytes} {last : Rest bytes}
    (passed : skipNumber bytes = .ok last) :
    ∃ text, IsNumeral text ∧ bytes = text ++ last.val := by
  unfold skipNumber at passed
  split at passed
  next => cases passed
  next found last numeral_eq =>
    cases passed
    obtain ⟨text, text_ok, bytes_eq, _⟩ := reads_numeral _ _ _ numeral_eq
    exact ⟨text, text_ok, bytes_eq⟩

theorem skipNumber_complete {bytes text rest : Bytes} (text_ok : IsNumeral text)
    (ends : EndsNumber rest) (bytes_eq : bytes = text ++ rest) :
    ∃ last, skipNumber bytes = .ok last ∧ last.val = rest := by
  cases text_ok with
  | mk whole_ok fraction_ok exponent_ok =>
    simp only [List.append_assoc] at bytes_eq
    obtain ⟨last, numeral_eq, last_eq⟩ :=
      numeral_complete whole_ok fraction_ok exponent_ok ends bytes_eq
    exact ⟨last, by simp only [skipNumber, numeral_eq], last_eq⟩

theorem skipScalar_sound {byte : UInt8} {bytes : Bytes} {last : Upto bytes}
    (passed : skipScalar byte bytes = .ok last) :
    ∃ text, IsScalar IsString text ∧ byte :: bytes = text ++ last.val := by
  unfold skipScalar at passed
  split at passed
  next byte_eq =>
    rw [@ascii_injective byte 0x6E byte_eq]
    exact ⟨_, .null, congrArg (0x6E :: ·) (@expect_sound [0x75, 0x6C, 0x6C] _ _ passed)⟩
  next byte_eq =>
    rw [@ascii_injective byte 0x74 byte_eq]
    exact ⟨_, .isTrue, congrArg (0x74 :: ·) (@expect_sound [0x72, 0x75, 0x65] _ _ passed)⟩
  next byte_eq =>
    rw [@ascii_injective byte 0x66 byte_eq]
    exact ⟨_, .isFalse, congrArg (0x66 :: ·) (@expect_sound [0x61, 0x6C, 0x73, 0x65] _ _ passed)⟩
  next byte_eq =>
    obtain ⟨final, string_eq, rfl⟩ := map_eq_ok_iff.1 passed
    obtain ⟨text, text_ok, bytes_eq⟩ := skipString_sound string_eq
    rw [@ascii_injective byte 0x22 byte_eq]
    exact ⟨_, .string text_ok, congrArg (0x22 :: ·) bytes_eq⟩
  next byte_eq =>
    obtain ⟨final, number_eq, rfl⟩ := map_eq_ok_iff.1 passed
    obtain ⟨text, text_ok, bytes_eq⟩ := skipNumber_sound number_eq
    rw [@ascii_injective byte 0x2D byte_eq]
    exact ⟨_, .number (.negative text_ok), congrArg (0x2D :: ·) bytes_eq⟩
  next =>
    split at passed
    next =>
      obtain ⟨final, number_eq, rfl⟩ := map_eq_ok_iff.1 passed
      obtain ⟨text, text_ok, bytes_eq⟩ := skipNumber_sound number_eq
      exact ⟨_, .number (.unsigned text_ok), bytes_eq⟩
    next => cases passed

/-- A digit starts a number. -/
theorem skipScalar_digit {byte : UInt8} (digit : isDigit byte = true) (bytes : Bytes) :
    skipScalar byte bytes = (skipNumber (byte :: bytes)).map Rest.uncons := by
  unfold skipScalar
  split
  next byte_eq => exact absurd byte_eq (@digit_ne byte 0x6E digit rfl)
  next byte_eq => exact absurd byte_eq (@digit_ne byte 0x74 digit rfl)
  next byte_eq => exact absurd byte_eq (@digit_ne byte 0x66 digit rfl)
  next byte_eq => exact absurd byte_eq (@digit_ne byte 0x22 digit rfl)
  next byte_eq => exact absurd byte_eq (@digit_ne byte 0x2D digit rfl)
  next => rw [if_pos digit]

theorem skipScalar_complete {byte : UInt8} {bytes text rest : Bytes}
    (text_ok : IsScalar IsString text) (ends : EndsNumber rest)
    (bytes_eq : byte :: bytes = text ++ rest) :
    ∃ last, skipScalar byte bytes = .ok last ∧ last.val = rest := by
  cases text_ok with
  | null =>
    cases bytes_eq
    exact @expect_complete [0x75, 0x6C, 0x6C] _ _ rfl
  | isTrue =>
    cases bytes_eq
    exact @expect_complete [0x72, 0x75, 0x65] _ _ rfl
  | isFalse =>
    cases bytes_eq
    exact @expect_complete [0x61, 0x6C, 0x73, 0x65] _ _ rfl
  | string text_ok =>
    cases bytes_eq
    obtain ⟨last, string_eq, last_eq⟩ := skipString_complete text_ok rfl
    exact ⟨last.upto, map_eq_ok_iff.2 ⟨last, string_eq, rfl⟩, last_eq⟩
  | number text_ok =>
    cases text_ok with
    | negative text_ok =>
      cases bytes_eq
      obtain ⟨last, number_eq, last_eq⟩ := skipNumber_complete text_ok ends rfl
      exact ⟨last.upto, map_eq_ok_iff.2 ⟨last, number_eq, rfl⟩, last_eq⟩
    | unsigned text_ok =>
      obtain ⟨first, more, rfl, digit⟩ := text_ok.head
      obtain ⟨last, number_eq, last_eq⟩ := skipNumber_complete text_ok ends bytes_eq
      cases bytes_eq
      rw [skipScalar_digit digit]
      exact ⟨last.uncons, map_eq_ok_iff.2 ⟨last, number_eq, rfl⟩, last_eq⟩

/-! ## Parts of containers -/

theorem skipName_sound {bytes : Bytes} {last : Rest bytes} (passed : skipName bytes = .ok last) :
    ∃ blank name gap, IsBlank blank ∧ IsString name ∧ IsBlank gap ∧
      bytes = blank ++ 0x22 :: (name ++ (gap ++ 0x3A :: last.val)) := by
  unfold skipName at passed
  split at passed
  next => cases passed
  next byte rest found =>
    obtain ⟨blank, blank_ok, _, bytes_eq⟩ := next?_sound found
    split at passed
    next quote =>
      rw [@ascii_injective byte 0x22 quote] at bytes_eq
      split at passed
      next => cases passed
      next afterName name_eq =>
        obtain ⟨name, name_ok, rest_eq⟩ := skipString_sound name_eq
        split at passed
        next => cases passed
        next final colon_eq =>
          cases passed
          obtain ⟨gap, gap_ok, afterName_eq⟩ := colon_sound colon_eq
          refine ⟨blank, name, gap, blank_ok, name_ok, gap_ok, ?_⟩
          have rest_eq := rest_eq.trans (congrArg (name ++ ·) afterName_eq)
          exact bytes_eq.trans (congrArg (blank ++ 0x22 :: ·) rest_eq)
    next => cases passed

theorem skipName_complete {bytes blank name gap rest : Bytes} (blank_ok : IsBlank blank)
    (name_ok : IsString name) (gap_ok : IsBlank gap)
    (bytes_eq : bytes = blank ++ 0x22 :: (name ++ (gap ++ 0x3A :: rest))) :
    ∃ last, skipName bytes = .ok last ∧ last.val = rest := by
  obtain ⟨start, found, start_eq⟩ := next?_complete blank_ok rfl bytes_eq
  obtain ⟨afterName, name_eq, afterName_eq⟩ := skipString_complete name_ok start_eq
  obtain ⟨last, colon_eq, last_eq⟩ := colon_complete gap_ok afterName_eq
  simp only [skipName, found, if_pos (show ascii 0x22 = '"' from rfl), name_eq, colon_eq]
  exact ⟨_, rfl, last_eq⟩

/-- What is passed over before a value, and the value, are a part. -/
theorem nextValue_sound {frame : Frame} {bytes : Bytes} {start : Upto bytes}
    (passed : nextValue frame bytes = .ok start) :
    ∃ front, bytes = front ++ start.val ∧
      ∀ text, Derives IsString .value text → Derives IsString (.part frame) (front ++ text) := by
  cases frame with
  | array =>
    cases passed
    exact ⟨[], rfl, fun text text_ok => .item text_ok⟩
  | object =>
    obtain ⟨last, name_eq, rfl⟩ := map_eq_ok_iff.1 passed
    obtain ⟨blank, name, gap, blank_ok, name_ok, gap_ok, bytes_eq⟩ := skipName_sound name_eq
    refine ⟨blank ++ 0x22 :: (name ++ (gap ++ [0x3A])), ?_, fun text text_ok => ?_⟩
    · simpa using bytes_eq
    · simpa using Derives.member blank_ok name_ok gap_ok text_ok

theorem closing?_sound {frame : Frame} {bytes : Bytes} {last : Rest bytes}
    (closed : closing? frame bytes = some last) :
    ∃ blank, IsBlank blank ∧ bytes = blank ++ frame.closing :: last.val := by
  unfold closing? at closed
  split at closed
  next => cases closed
  next byte rest found =>
    obtain ⟨blank, blank_ok, _, bytes_eq⟩ := next?_sound found
    split at closed
    next same =>
      cases closed
      rw [frame_close_eq] at same
      rw [ascii_injective same] at bytes_eq
      exact ⟨blank, blank_ok, bytes_eq⟩
    next => cases closed

theorem closing?_complete {frame : Frame} {bytes blank rest : Bytes} (blank_ok : IsBlank blank)
    (bytes_eq : bytes = blank ++ frame.closing :: rest) :
    ∃ last, closing? frame bytes = some last ∧ last.val = rest := by
  obtain ⟨last, found, last_eq⟩ := next?_complete blank_ok (isSpace_closing frame) bytes_eq
  refine ⟨last, ?_, last_eq⟩
  simp only [closing?, found, frame_close_eq, if_true]

/-! ## Soundness -/

/-- The ends of open containers. -/
inductive Closes : List Frame → Bytes → Prop where
  | nothing : Closes [] []
  | outward {frame : Frame} {outer : List Frame} {text others : Bytes}
      (text_ok : Derives IsString (.rest frame) text) (others_ok : Closes outer others) :
      Closes (frame :: outer) (text ++ others)

/-- A value that is passed over from here is one of the grammar. -/
def SkipsValues (bytes : Bytes) : Prop :=
  ∀ frames last, skipFrom frames bytes = .ok last →
    ∃ text ends, Derives IsString .value text ∧ Closes frames ends ∧
      bytes = text ++ (ends ++ last.val)

/-- The ends that are passed over from here are ends of the grammar. -/
def SkipsEnds (bytes : Bytes) : Prop :=
  ∀ frames last, skipEnds frames bytes = .ok last →
    ∃ ends, Closes frames ends ∧ bytes = ends ++ last.val

theorem skipsValues_step {bytes : Bytes}
    (ih : ∀ shorter, shorter.length < bytes.length → SkipsValues shorter ∧ SkipsEnds shorter) :
    SkipsValues bytes := by
  intro frames last passed
  rw [skipFrom] at passed
  split at passed
  next => cases passed
  next byte rest found =>
    obtain ⟨blank, blank_ok, _, bytes_eq⟩ := next?_sound found
    split at passed
    next frame opened =>
      rw [opened?_eq_some_iff.1 opened] at bytes_eq
      split at passed
      next ended closed =>
        obtain ⟨gap, gap_ok, rest_eq⟩ := closing?_sound closed
        split at passed
        next => cases passed
        next final ends_eq =>
          cases passed
          obtain ⟨ends, ends_ok, ended_eq⟩ :=
            (ih _ (Nat.lt_trans ended.shorter rest.shorter)).2 _ _ ends_eq
          refine ⟨_, ends, @Derives.container _ frame _ _ blank_ok (.nothing gap_ok), ends_ok, ?_⟩
          refine bytes_eq.trans ?_
          simp [rest_eq, ended_eq]
      next =>
        split at passed
        next => cases passed
        next start start_eq =>
          obtain ⟨front, rest_eq, part⟩ := nextValue_sound start_eq
          split at passed
          next => cases passed
          next final value_eq =>
            cases passed
            obtain ⟨text, ends, text_ok, closes, start_eq⟩ :=
              (ih _ (Nat.lt_of_le_of_lt start.within rest.shorter)).1 _ _ value_eq
            cases closes with
            | outward others_ok ends_ok =>
              refine ⟨_, _, .container blank_ok (.parts (part _ text_ok) others_ok), ends_ok, ?_⟩
              refine bytes_eq.trans ?_
              simp [rest_eq, start_eq]
    next =>
      split at passed
      next => cases passed
      next ended scalar_eq =>
        obtain ⟨text, text_ok, rest_eq⟩ := skipScalar_sound scalar_eq
        split at passed
        next => cases passed
        next final ends_eq =>
          cases passed
          obtain ⟨ends, ends_ok, ended_eq⟩ :=
            (ih _ (Nat.lt_of_le_of_lt ended.within rest.shorter)).2 _ _ ends_eq
          refine ⟨_, ends, .scalar blank_ok text_ok, ends_ok, ?_⟩
          change bytes = (blank ++ text) ++ (ends ++ final.val)
          refine bytes_eq.trans ?_
          simp [rest_eq, ended_eq]

theorem skipsEnds_step {bytes : Bytes}
    (ih : ∀ shorter, shorter.length < bytes.length → SkipsValues shorter ∧ SkipsEnds shorter) :
    SkipsEnds bytes := by
  intro frames last passed
  rw [skipEnds.eq_def] at passed
  split at passed
  next =>
    cases passed
    exact ⟨[], .nothing, rfl⟩
  next frame outer =>
    split at passed
    next => cases passed
    next byte rest found =>
      obtain ⟨blank, blank_ok, _, bytes_eq⟩ := next?_sound found
      split at passed
      next same =>
        rw [frame_close_eq] at same
        rw [ascii_injective same] at bytes_eq
        split at passed
        next => cases passed
        next final ends_eq =>
          cases passed
          obtain ⟨ends, ends_ok, rest_eq⟩ := (ih _ rest.shorter).2 _ _ ends_eq
          refine ⟨_, .outward (.ended blank_ok) ends_ok, bytes_eq.trans ?_⟩
          simp [rest_eq]
      next =>
        split at passed
        next comma =>
          rw [@ascii_injective byte 0x2C comma] at bytes_eq
          split at passed
          next => cases passed
          next start start_eq =>
            obtain ⟨front, rest_eq, part⟩ := nextValue_sound start_eq
            split at passed
            next => cases passed
            next final value_eq =>
              cases passed
              obtain ⟨text, ends, text_ok, closes, start_eq⟩ :=
                (ih _ (Nat.lt_of_le_of_lt start.within rest.shorter)).1 _ _ value_eq
              cases closes with
              | outward others_ok ends_ok =>
                refine ⟨_, .outward (.further blank_ok (part _ text_ok) others_ok) ends_ok,
                  bytes_eq.trans ?_⟩
                simp [rest_eq, start_eq]
        next => cases passed

theorem skips (bytes : Bytes) : SkipsValues bytes ∧ SkipsEnds bytes := by
  induction size : bytes.length using Nat.strongRecOn generalizing bytes with
  | ind length ih =>
    subst size
    have shorter_ih : ∀ shorter : Bytes, shorter.length < bytes.length →
        SkipsValues shorter ∧ SkipsEnds shorter :=
      fun shorter less => ih _ less shorter rfl
    exact ⟨skipsValues_step shorter_ih, skipsEnds_step shorter_ih⟩

/-- What is passed over is one value. -/
theorem skip_sound {bytes : Bytes} {last : Rest bytes} (passed : skip bytes = .ok last) :
    ∃ text, Derives IsString .value text ∧ bytes = text ++ last.val := by
  obtain ⟨text, ends, text_ok, closes, bytes_eq⟩ := (skips bytes).1 _ _ passed
  cases closes
  exact ⟨text, text_ok, bytes_eq⟩

/-! ## Completeness -/

theorem IsBlank.endsNumber {blank rest : Bytes} (blank_ok : IsBlank blank)
    (ends : EndsNumber rest) : EndsNumber (blank ++ rest) := by
  cases blank with
  | nil => exact ends
  | cons space blank =>
    have space_ok := blank_ok space List.mem_cons_self
    simp only [isSpace, Bool.or_eq_true, beq_iff_eq] at space_ok
    rw [EndsNumber, List.cons_append, avoids_cons]
    rcases space_ok with ((rfl | rfl) | rfl) | rfl <;> rfl

/-- What ends a number where a container goes on or ends. -/
theorem Derives.endsNumber {Str : Bytes → Prop} {frame : Frame} {text : Bytes}
    (derived : Derives Str (.rest frame) text) (rest : Bytes) : EndsNumber (text ++ rest) := by
  cases derived with
  | ended blank_ok =>
    rw [List.append_assoc]
    exact blank_ok.endsNumber (avoids_cons.2 (by cases frame <;> rfl))
  | further blank_ok _ _ =>
    rw [List.append_assoc]
    exact blank_ok.endsNumber (avoids_cons.2 rfl)

/-- Passing over a value and over all that is open around it gets as far as given. -/
def PassesTo (frames : List Frame) (bytes tail : Bytes) : Prop :=
  ∃ last, skipFrom frames bytes = .ok last ∧ last.val = tail

/-- Passing over the ends of open containers gets as far as given. -/
def EndsAt (frames : List Frame) (bytes tail : Bytes) : Prop :=
  ∃ last, skipEnds frames bytes = .ok last ∧ last.val = tail

theorem closing?_part {frame : Frame} {text : Bytes} (text_ok : Derives IsString (.part frame) text)
    (rest : Bytes) : closing? frame (text ++ rest) = none := by
  obtain ⟨blank, byte, more, blank_ok, rfl, not_space, closing_ne⟩ := text_ok.part_head
  obtain ⟨last, found, _⟩ := next?_append blank_ok not_space (more ++ rest)
  have no_close : ¬ascii byte = frame.close := by
    rw [frame_close_eq, ascii_eq_iff]
    exact closing_ne
  rw [List.append_assoc, List.cons_append]
  simp only [closing?, found, if_neg no_close]

theorem passesTo_scalar {frames : List Frame} {blank text rest tail : Bytes}
    (blank_ok : IsBlank blank) (text_ok : IsScalar IsString text) (ends : EndsNumber rest)
    (ended : EndsAt frames rest tail) : PassesTo frames (blank ++ (text ++ rest)) tail := by
  obtain ⟨byte, more, rfl, not_space, not_opened, _⟩ := text_ok.head
  obtain ⟨start, found, start_eq⟩ := next?_append blank_ok not_space (more ++ rest)
  obtain ⟨after, scalar_eq, after_eq⟩ :=
    @skipScalar_complete byte start.val _ _ text_ok ends (by rw [start_eq]; rfl)
  rw [← after_eq] at ended
  obtain ⟨last, ends_eq, last_eq⟩ := ended
  rw [PassesTo, List.cons_append, skipFrom, found]
  dsimp only
  rw [not_opened]
  dsimp only
  rw [scalar_eq]
  dsimp only
  rw [ends_eq]
  exact ⟨_, rfl, last_eq⟩

theorem passesTo_empty {frames : List Frame} {frame : Frame} {blank gap rest tail : Bytes}
    (blank_ok : IsBlank blank) (gap_ok : IsBlank gap) (ended : EndsAt frames rest tail) :
    PassesTo frames (blank ++ frame.opening :: (gap ++ frame.closing :: rest)) tail := by
  obtain ⟨start, found, start_eq⟩ := next?_append blank_ok (isSpace_opening frame)
    (gap ++ frame.closing :: rest)
  obtain ⟨after, closed, after_eq⟩ := closing?_complete gap_ok start_eq
  rw [← after_eq] at ended
  obtain ⟨last, ends_eq, last_eq⟩ := ended
  rw [PassesTo, skipFrom]
  simp only [found, opened?_opening, closed, ends_eq]
  exact ⟨_, rfl, last_eq⟩

theorem passesTo_parts {frames : List Frame} {frame : Frame} {blank inner tail : Bytes}
    (blank_ok : IsBlank blank) (not_closed : closing? frame inner = none)
    (passes : ∃ start, nextValue frame inner = .ok start ∧
      PassesTo (frame :: frames) start.val tail) :
    PassesTo frames (blank ++ frame.opening :: inner) tail := by
  obtain ⟨start, found, start_eq⟩ := next?_append blank_ok (isSpace_opening frame) inner
  rw [← start_eq] at not_closed passes
  obtain ⟨after, next_eq, last, value_eq, last_eq⟩ := passes
  rw [PassesTo, skipFrom]
  simp only [found, opened?_opening, not_closed, next_eq, value_eq]
  exact ⟨_, rfl, last_eq⟩

theorem endsAt_close {frames : List Frame} {frame : Frame} {blank rest tail : Bytes}
    (blank_ok : IsBlank blank) (ended : EndsAt frames rest tail) :
    EndsAt (frame :: frames) (blank ++ frame.closing :: rest) tail := by
  obtain ⟨start, found, start_eq⟩ := next?_append blank_ok (isSpace_closing frame) rest
  rw [← start_eq] at ended
  obtain ⟨last, ends_eq, last_eq⟩ := ended
  rw [EndsAt, skipEnds]
  simp only [found, frame_close_eq, if_true, ends_eq]
  exact ⟨_, rfl, last_eq⟩

theorem endsAt_comma {frames : List Frame} {frame : Frame} {blank inner tail : Bytes}
    (blank_ok : IsBlank blank)
    (passes : ∃ start, nextValue frame inner = .ok start ∧
      PassesTo (frame :: frames) start.val tail) :
    EndsAt (frame :: frames) (blank ++ 0x2C :: inner) tail := by
  have no_close : ¬ascii 0x2C = frame.close := by cases frame <;> decide
  obtain ⟨start, found, start_eq⟩ := @next?_append _ 0x2C blank_ok rfl inner
  rw [← start_eq] at passes
  obtain ⟨after, next_eq, last, value_eq, last_eq⟩ := passes
  rw [EndsAt, skipEnds]
  simp only [found, if_neg no_close, if_pos (show ascii 0x2C = ',' from rfl), next_eq, value_eq]
  exact ⟨_, rfl, last_eq⟩

/-- Stretches of the grammar are passed over. -/
def SkipsOver : Symbol → Bytes → Prop
  | .value, text => ∀ rest frames tail, EndsNumber rest → EndsAt frames rest tail →
      PassesTo frames (text ++ rest) tail
  | .inside frame, text => ∀ blank rest frames tail, IsBlank blank → EndsAt frames rest tail →
      PassesTo frames (blank ++ frame.opening :: (text ++ rest)) tail
  | .part frame, text => ∀ rest frames tail, EndsNumber rest →
      EndsAt (frame :: frames) rest tail →
      ∃ start, nextValue frame (text ++ rest) = .ok start ∧
        PassesTo (frame :: frames) start.val tail
  | .rest frame, text => ∀ rest frames tail, EndsAt frames rest tail →
      EndsAt (frame :: frames) (text ++ rest) tail

theorem skipsOver {symbol : Symbol} {text : Bytes} (derived : Derives IsString symbol text) :
    SkipsOver symbol text := by
  -- What lies around a text is carried along as the open frames, with the end that they reach.
  induction derived with
  | scalar blank_ok text_ok =>
    intro rest frames tail ends ended
    rw [List.append_assoc]
    exact passesTo_scalar blank_ok text_ok ends ended
  | container blank_ok _ ih =>
    intro rest frames tail _ ended
    rw [List.append_assoc]
    exact ih _ rest frames tail blank_ok ended
  | nothing gap_ok =>
    intro blank rest frames tail blank_ok ended
    rw [List.append_assoc]
    exact passesTo_empty blank_ok gap_ok ended
  | @parts frame first others first_ok others_ok first_ih others_ih =>
    intro blank rest frames tail blank_ok ended
    rw [List.append_assoc]
    exact passesTo_parts blank_ok (closing?_part first_ok _)
      (first_ih _ frames tail (others_ok.endsNumber rest) (others_ih rest frames tail ended))
  | item _ ih =>
    intro rest frames tail ends ended
    exact ⟨_, rfl, ih rest (.array :: frames) tail ends ended⟩
  | @member blank name gap text blank_ok name_ok gap_ok _ ih =>
    intro rest frames tail ends ended
    have bytes_eq : (blank ++ 0x22 :: (name ++ (gap ++ 0x3A :: text))) ++ rest =
        blank ++ 0x22 :: (name ++ (gap ++ 0x3A :: (text ++ rest))) := by simp
    obtain ⟨last, name_eq, last_eq⟩ := skipName_complete blank_ok name_ok gap_ok bytes_eq
    refine ⟨last.upto, map_eq_ok_iff.2 ⟨last, name_eq, rfl⟩, ?_⟩
    rw [Rest.upto_val, last_eq]
    exact ih rest (.object :: frames) tail ends ended
  | ended blank_ok =>
    intro rest frames tail ended
    rw [List.append_assoc]
    exact endsAt_close blank_ok ended
  | further blank_ok _ others_ok next_ih others_ih =>
    intro rest frames tail ended
    simp only [List.append_assoc, List.cons_append]
    exact endsAt_comma blank_ok
      (next_ih _ frames tail (others_ok.endsNumber rest) (others_ih rest frames tail ended))

/-- Every value is passed over, if what follows it does not go on with it. -/
theorem skip_complete {bytes text rest : Bytes} (text_ok : Derives IsString .value text)
    (ends : EndsNumber rest) (bytes_eq : bytes = text ++ rest) :
    ∃ last, skip bytes = .ok last ∧ last.val = rest := by
  subst bytes_eq
  exact skipsOver text_ok rest [] rest ends ⟨.all rest, by rw [skipEnds], rfl⟩

end SignIn.Json
