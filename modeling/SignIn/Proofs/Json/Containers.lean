import SignIn.Json.Reader
import SignIn.Proofs.Json.Skipping

/-!
# The insides of containers

What a reader of items, of members or of the fields of a record takes is the inside of a container,
provided that what reads a part takes a value.
-/

namespace SignIn.Json

variable {α β δ : Type} {Str : Bytes → Prop}

/-! ## Readers of readers -/

/-- A reader takes bytes of a kind, if what follows them is fit to. -/
def Consumes (reader : Reader α) (Kind Follows : Bytes → Prop) : Prop :=
  Reads reader (fun _ text => Kind text) Follows

theorem Consumes.refine {reader : Reader α} {Kind Follows : Bytes → Prop}
    (consumes : Consumes reader Kind Follows) (change : α → Except Fault β) :
    Consumes (reader.refine change) Kind Follows := by
  intro bytes content last read_eq
  unfold Reader.refine at read_eq
  split at read_eq
  next => cases read_eq
  next before last before_eq =>
    split at read_eq
    next => cases read_eq
    next changed changed_eq =>
      cases read_eq
      obtain ⟨text, text_ok, bytes_eq, taken⟩ := consumes _ _ _ before_eq
      refine ⟨text, text_ok, bytes_eq, fun others rest follows others_eq => ?_⟩
      obtain ⟨final, final_eq, final_at⟩ := taken others rest follows others_eq
      refine ⟨final, ?_, final_at⟩
      simp only [Reader.refine, final_eq, changed_eq]

theorem Consumes.map {reader : Reader α} {Kind Follows : Bytes → Prop}
    (consumes : Consumes reader Kind Follows) (change : α → β) :
    Consumes (reader.map change) Kind Follows :=
  consumes.refine _

theorem Consumes.inside {reader : Reader α} {Kind Follows : Bytes → Prop}
    (consumes : Consumes reader Kind Follows) (step : Step) :
    Consumes (reader.inside step) Kind Follows := by
  intro bytes content last read_eq
  obtain ⟨text, text_ok, bytes_eq, taken⟩ := consumes _ _ _ (mapError_eq_ok_iff.1 read_eq)
  refine ⟨text, text_ok, bytes_eq, fun others rest follows others_eq => ?_⟩
  obtain ⟨final, final_eq, final_at⟩ := taken others rest follows others_eq
  exact ⟨final, mapError_eq_ok_iff.2 final_eq, final_at⟩

theorem consumes_failing (fault : Fault) (Kind Follows : Bytes → Prop) :
    Consumes (Reader.failing fault : Reader α) Kind Follows := by
  intro bytes content last read_eq
  cases read_eq

/-! ## Between parts -/

/-- What stands before a part of a container: nothing before the first one, and a comma before any
other, each time with blanks. -/
inductive Leads : Bool → Bytes → Prop where
  | first {gap : Bytes} (gap_ok : IsBlank gap) : Leads true gap
  | later {blank gap : Bytes} (blank_ok : IsBlank blank) (gap_ok : IsBlank gap) :
      Leads false (blank ++ 0x2C :: gap)

/-- The symbol for what is left of a container, be it all of its inside or not. -/
def contents (first : Bool) (frame : Frame) : Symbol :=
  if first then .inside frame else .rest frame

theorem derives_ended (first : Bool) {frame : Frame} {blank : Bytes} (blank_ok : IsBlank blank) :
    Derives Str (contents first frame) (blank ++ [frame.closing]) := by
  cases first with
  | true => exact .nothing blank_ok
  | false => exact .ended blank_ok

/-- Blanks before a part belong to it. -/
theorem Derives.pad_part {frame : Frame} {text blank : Bytes} (blank_ok : IsBlank blank)
    (derived : Derives Str (.part frame) text) : Derives Str (.part frame) (blank ++ text) := by
  cases derived with
  | item text_ok => exact .item (text_ok.pad blank_ok)
  | member first_ok name_ok gap_ok text_ok =>
    rw [← List.append_assoc]
    exact .member (blank_ok.append first_ok) name_ok gap_ok text_ok

theorem derives_part {first : Bool} {frame : Frame} {lead part others : Bytes}
    (lead_ok : Leads first lead) (part_ok : Derives Str (.part frame) part)
    (others_ok : Derives Str (.rest frame) others) :
    Derives Str (contents first frame) (lead ++ (part ++ others)) := by
  cases lead_ok with
  | first gap_ok =>
    rw [← List.append_assoc]
    exact .parts (part_ok.pad_part gap_ok) others_ok
  | @later blank gap blank_ok gap_ok =>
    have together : (blank ++ 0x2C :: gap) ++ (part ++ others) =
        blank ++ 0x2C :: ((gap ++ part) ++ others) := by simp
    rw [together]
    exact .further blank_ok (part_ok.pad_part gap_ok) others_ok

theorem upcoming_closing_sound {frame : Frame} {first : Bool} {bytes : Bytes} {last : Rest bytes}
    (looked : upcoming frame first bytes = .ok (.closing last)) :
    ∃ blank, IsBlank blank ∧ bytes = blank ++ frame.closing :: last.val := by
  unfold upcoming at looked
  split at looked
  next => cases looked
  next byte rest found =>
    obtain ⟨blank, blank_ok, _, bytes_eq⟩ := next?_sound found
    split at looked
    next same =>
      cases looked
      rw [frame_close_eq] at same
      rw [ascii_injective same] at bytes_eq
      exact ⟨blank, blank_ok, bytes_eq⟩
    next =>
      split at looked
      next => cases looked
      next =>
        split at looked
        next =>
          unfold afterComma at looked
          split at looked
          next => cases looked
          next =>
            split at looked
            next => cases looked
            next => cases looked
        next => cases looked

theorem upcoming_closing_complete {frame : Frame} (first : Bool) {bytes blank rest : Bytes}
    (blank_ok : IsBlank blank) (bytes_eq : bytes = blank ++ frame.closing :: rest) :
    ∃ last, upcoming frame first bytes = .ok (.closing last) ∧ last.val = rest := by
  obtain ⟨last, found, last_eq⟩ := next?_complete blank_ok (isSpace_closing frame) bytes_eq
  refine ⟨last, ?_, last_eq⟩
  simp only [upcoming, found, frame_close_eq, if_true]

theorem upcoming_part_sound {frame : Frame} {first : Bool} {bytes : Bytes} {byte : UInt8}
    {last : Rest bytes} (looked : upcoming frame first bytes = .ok (.part byte last)) :
    ∃ lead, Leads first lead ∧ isSpace byte = false ∧ byte ≠ frame.closing ∧
      bytes = lead ++ byte :: last.val := by
  unfold upcoming at looked
  split at looked
  next => cases looked
  next next rest found =>
    obtain ⟨blank, blank_ok, not_space, bytes_eq⟩ := next?_sound found
    split at looked
    next => cases looked
    next no_close =>
      rw [frame_close_eq, ascii_eq_iff] at no_close
      split at looked
      next first_eq =>
        cases looked
        rw [first_eq]
        exact ⟨blank, .first blank_ok, not_space, no_close, bytes_eq⟩
      next later =>
        split at looked
        next comma =>
          rw [@ascii_injective next 0x2C comma] at bytes_eq
          unfold afterComma at looked
          split at looked
          next => cases looked
          next after afterRest afterFound =>
            obtain ⟨gap, gap_ok, after_not_space, rest_eq⟩ := next?_sound afterFound
            split at looked
            next => cases looked
            next no_close =>
              cases looked
              rw [frame_close_eq, ascii_eq_iff] at no_close
              rw [Bool.not_eq_true] at later
              subst later
              refine ⟨_, .later blank_ok gap_ok, after_not_space, no_close, bytes_eq.trans ?_⟩
              simp [rest_eq]
        next => cases looked

theorem upcoming_part_complete {frame : Frame} {first : Bool} {bytes lead rest : Bytes}
    {byte : UInt8} (lead_ok : Leads first lead) (not_space : isSpace byte = false)
    (no_close : byte ≠ frame.closing) (bytes_eq : bytes = lead ++ byte :: rest) :
    ∃ last, upcoming frame first bytes = .ok (.part byte last) ∧ last.val = rest := by
  have byte_open : ¬ascii byte = frame.close := by
    rw [frame_close_eq, ascii_eq_iff]
    exact no_close
  cases lead_ok with
  | first gap_ok =>
    obtain ⟨last, found, last_eq⟩ := next?_complete gap_ok not_space bytes_eq
    refine ⟨last, ?_, last_eq⟩
    simp only [upcoming, found, if_neg byte_open, if_true]
  | @later blank gap blank_ok gap_ok =>
    have comma_open : ¬ascii 0x2C = frame.close := by cases frame <;> decide
    simp only [List.append_assoc, List.cons_append] at bytes_eq
    obtain ⟨start, found, start_eq⟩ := next?_complete blank_ok rfl bytes_eq
    obtain ⟨last, afterFound, last_eq⟩ := next?_complete gap_ok not_space start_eq
    refine ⟨start.before last.upto, ?_, last_eq⟩
    simp only [upcoming, found, if_neg comma_open, Bool.false_eq_true, if_false,
      if_pos (show ascii 0x2C = ',' from rfl), afterComma, afterFound, if_neg byte_open]

/-- The end of a container is taken, if a reader stops there. -/
theorem takes_end {frame : Frame} {first : Bool} {reader : Reader α} {content : α}
    {bytes blank rest : Bytes} (blank_ok : IsBlank blank)
    (bytes_eq : bytes = blank ++ frame.closing :: rest)
    (stops : ∀ others behind, others = blank ++ frame.closing :: behind →
      ∃ last, reader others = .ok (content, last) ∧ last.val = behind) :
    ∃ text, Derives Str (contents first frame) text ∧ bytes = text ++ rest ∧
      Takes reader Anything content text := by
  refine ⟨blank ++ [frame.closing], derives_ended first blank_ok, by simp [bytes_eq], ?_⟩
  intro others behind _ others_eq
  exact stops others behind (by simp [others_eq])

theorem takes_closing {frame : Frame} {first : Bool} {reader : Reader α} {content : α}
    {bytes : Bytes} {rest : Rest bytes} (looked : upcoming frame first bytes = .ok (.closing rest))
    (stops : ∀ {others last}, upcoming frame first others = .ok (.closing last) →
      reader others = .ok (content, last)) :
    ∃ text, Derives Str (contents first frame) text ∧ bytes = text ++ rest.val ∧
      Takes reader Anything content text := by
  obtain ⟨blank, blank_ok, bytes_eq⟩ := upcoming_closing_sound looked
  refine takes_end blank_ok bytes_eq fun others behind others_eq => ?_
  obtain ⟨last, looked, last_eq⟩ := upcoming_closing_complete first blank_ok others_eq
  exact ⟨last, stops looked, last_eq⟩

/-! ## Items -/

/-- A value starts, after blanks, with something else than a container's end. -/
theorem Derives.value_head {text : Bytes} (derived : Derives Str .value text)
    {byte : UInt8} {rest more : Bytes} (bytes_eq : byte :: rest = text ++ more) :
    ∃ tail, text = byte :: tail := by
  cases text with
  | nil =>
    obtain ⟨blank, first, others, _, nil_eq, _⟩ := (Derives.item derived).part_head
    simp at nil_eq
  | cons first tail =>
    cases bytes_eq
    exact ⟨tail, rfl⟩

/-- An item is taken with what stands before it and with all that is left of the array, if a reader
goes on from the one to the other. -/
theorem takes_item {first : Bool} {item : Reader α} {reader further : Reader β} {bytes : Bytes}
    {byte : UInt8} {rest : Rest bytes} {content : α} {after : Rest (byte :: rest.val)}
    {all contained : β} {final : Bytes}
    (looked : upcoming .array first bytes = .ok (.part byte rest))
    (read_eq : item (byte :: rest.val) = .ok (content, after))
    (consumes : Consumes item (Derives Str .value) EndsNumber)
    (taken_further : ∃ text, Derives Str (.rest .array) text ∧ after.val = text ++ final ∧
      Takes further Anything all text)
    (follows : ∀ {bytes rest after last}, upcoming .array first bytes = .ok (.part byte rest) →
      item (byte :: rest.val) = .ok (content, after) → further after.val = .ok (all, last) →
      ∃ final, reader bytes = .ok (contained, final) ∧ final.val = last.val) :
    ∃ text, Derives Str (contents first .array) text ∧ bytes = text ++ final ∧
      Takes reader Anything contained text := by
  obtain ⟨lead, lead_ok, not_space, no_close, bytes_eq⟩ := upcoming_part_sound looked
  obtain ⟨text, text_ok, text_eq, taken⟩ := consumes _ _ _ read_eq
  obtain ⟨tail, rfl⟩ := text_ok.value_head text_eq
  obtain ⟨left, left_ok, after_eq, left_taken⟩ := taken_further
  refine ⟨lead ++ (byte :: tail ++ left), derives_part lead_ok (.item text_ok) left_ok, ?_, ?_⟩
  · rw [bytes_eq, text_eq, after_eq]
    simp
  · intro bytes behind fit bytes_eq
    have start_eq : bytes = lead ++ byte :: (tail ++ (left ++ behind)) := by simp [bytes_eq]
    obtain ⟨place, looked, place_eq⟩ :=
      upcoming_part_complete lead_ok not_space no_close start_eq
    have read_at : byte :: place.val = (byte :: tail) ++ (left ++ behind) := by
      rw [place_eq]
      rfl
    obtain ⟨next, item_eq, next_eq⟩ := taken _ _ (left_ok.endsNumber behind) read_at
    obtain ⟨last, further_eq, last_eq⟩ := left_taken _ behind fit next_eq
    obtain ⟨final, reader_eq, final_eq⟩ := follows looked item_eq further_eq
    exact ⟨final, reader_eq, final_eq.trans last_eq⟩

theorem consumes_items {item : Reader α} (consumes : Consumes item (Derives Str .value) EndsNumber)
    (index : Nat) :
    Consumes (items item index) (Derives Str (contents (index == 0) .array)) Anything := by
  intro bytes content last read_eq
  induction size : bytes.length using Nat.strongRecOn generalizing bytes content index with
  | ind length ih =>
    subst size
    rw [items] at read_eq
    split at read_eq
    next => cases read_eq
    next rest looked =>
      cases read_eq
      refine takes_closing looked fun looked => ?_
      rw [items, looked]
    next byte rest looked =>
      split at read_eq
      next => cases read_eq
      next head after head_eq =>
        split at read_eq
        next => cases read_eq
        next contents final rest_eq =>
          cases read_eq
          have further :=
            ih _ (Nat.lt_of_le_of_lt after.uncons.within rest.shorter) _ _ _ _ rest_eq rfl
          refine takes_item looked head_eq (consumes.inside _) further
            fun looked item_eq further_eq => ?_
          rw [items, looked]
          simp only [item_eq, further_eq]
          exact ⟨_, rfl, rfl⟩

/-- The end of an array, once nothing but its end may come. -/
theorem consumes_arrayEnd (index : Nat) (expected : String) (draft : δ) :
    Consumes (Record.arrayFields expected [] index draft)
      (Derives Str (contents (index == 0) .array)) Anything := by
  intro bytes content last read_eq
  unfold Record.arrayFields Record.arrayEnd at read_eq
  split at read_eq
  next => cases read_eq
  next rest ended =>
    cases read_eq
    split at ended
    next => cases ended
    next byte final found =>
      obtain ⟨blank, blank_ok, _, bytes_eq⟩ := next?_sound found
      split at ended
      next same =>
        cases ended
        rw [@ascii_injective byte 0x5D same] at bytes_eq
        refine takes_end blank_ok bytes_eq fun others behind others_eq => ?_
        obtain ⟨final, found, final_eq⟩ :=
          next?_complete blank_ok (isSpace_closing .array) others_eq
        refine ⟨final, ?_, final_eq⟩
        simp only [Record.arrayFields, Record.arrayEnd, found,
          if_pos (show ascii Frame.array.closing = ']' from rfl)]
      next => cases ended

theorem consumes_arrayFields (expected : String) {fields : List (Field δ)}
    (consumes : ∀ field ∈ fields, ∀ draft,
      Consumes (field.fill draft) (Derives Str .value) EndsNumber) (index : Nat) (draft : δ) :
    Consumes (Record.arrayFields expected fields index draft)
      (Derives Str (contents (index == 0) .array)) Anything := by
  induction fields generalizing index draft with
  | nil => exact consumes_arrayEnd index expected draft
  | cons field fields ih =>
    intro bytes content last read_eq
    unfold Record.arrayFields at read_eq
    split at read_eq
    next => cases read_eq
    next rest looked =>
      split at read_eq
      next => cases read_eq
      next optional =>
        cases read_eq
        refine takes_closing looked fun looked => ?_
        simp only [Record.arrayFields, looked, if_neg optional]
    next byte rest looked =>
      split at read_eq
      next => cases read_eq
      next more after field_eq =>
        split at read_eq
        next => cases read_eq
        next all final rest_eq =>
          cases read_eq
          obtain ⟨field_ok, fields_ok⟩ := List.forall_mem_cons.1 consumes
          have further := ih fields_ok (index + 1) more _ _ _ rest_eq
          refine takes_item looked field_eq ((field_ok draft).inside _) further
            fun looked field_eq further_eq => ?_
          simp only [Record.arrayFields, looked, field_eq, further_eq]
          exact ⟨_, rfl, rfl⟩

/-! ## Members -/

theorem memberName_sound {byte : UInt8} {bytes : Bytes} {name : String} {last : Rest bytes}
    (read_eq : memberName byte bytes = .ok (name, last)) :
    byte = 0x22 ∧ stringBody bytes = .ok (name, last) := by
  unfold memberName at read_eq
  split at read_eq
  next quote => exact ⟨@ascii_injective byte 0x22 quote, read_eq⟩
  next => cases read_eq

/-- A member's name is taken with the colon behind it. -/
theorem takes_memberName (loose : ∀ text, IsText text → Str text) {byte : UInt8} {bytes : Bytes}
    {name : String} {afterName : Rest bytes} {afterColon : Rest afterName.val}
    (name_eq : memberName byte bytes = .ok (name, afterName))
    (colon_eq : colon afterName.val = .ok afterColon) :
    byte = 0x22 ∧ ∃ text, bytes = text ++ afterColon.val ∧
      (∀ value, Derives Str .value value → Derives Str (.part .object) (0x22 :: (text ++ value))) ∧
      ∀ others behind, others = text ++ behind →
        ∃ afterName, memberName 0x22 others = .ok (name, afterName) ∧
          ∃ afterColon, colon afterName.val = .ok afterColon ∧ afterColon.val = behind := by
  obtain ⟨byte_eq, name_eq⟩ := memberName_sound name_eq
  obtain ⟨text, text_ok, bytes_eq, taken⟩ := reads_stringBody _ _ _ name_eq
  obtain ⟨gap, gap_ok, afterName_eq⟩ := colon_sound colon_eq
  refine ⟨byte_eq, text ++ (gap ++ [0x3A]), ?_, fun value value_ok => ?_, ?_⟩
  · refine bytes_eq.trans ?_
    simp [afterName_eq]
  · have part_ok : Derives Str (.part .object) ([] ++ 0x22 :: (text ++ (gap ++ 0x3A :: value))) :=
      .member (List.forall_mem_nil _) (loose _ text_ok) gap_ok value_ok
    simpa using part_ok
  · intro others behind others_eq
    simp only [List.append_assoc, List.cons_append, List.nil_append] at others_eq
    obtain ⟨atName, name_eq, atName_eq⟩ := taken _ _ trivial others_eq
    obtain ⟨atColon, colon_eq, atColon_eq⟩ := colon_complete gap_ok atName_eq
    refine ⟨atName, ?_, atColon, colon_eq, atColon_eq⟩
    simp only [memberName, if_pos (show ascii 0x22 = '"' from rfl), name_eq]

theorem consumes_members (loose : ∀ text, IsText text → Str text)
    {take : δ → String → Except Fault (Reader δ)}
    (consumes : ∀ gathered name reader, take gathered name = .ok reader →
      Consumes reader (Derives Str .value) EndsNumber) (first : Bool) (gathered : δ) :
    Consumes (members take first gathered) (Derives Str (contents first .object)) Anything := by
  intro bytes content last read_eq
  -- Each member is read by a reader of its own choice, of which no more is known than that it takes
  -- something; so the induction is on the length of what is left.
  induction size : bytes.length using Nat.strongRecOn generalizing bytes first gathered with
  | ind length ih =>
    subst size
    rw [members] at read_eq
    split at read_eq
    next => cases read_eq
    next rest looked =>
      cases read_eq
      refine takes_closing looked fun looked => ?_
      rw [members, looked]
    next byte rest looked =>
      obtain ⟨lead, lead_ok, _, _, bytes_eq⟩ := upcoming_part_sound looked
      split at read_eq
      next => cases read_eq
      next name afterName name_eq =>
        split at read_eq
        next => cases read_eq
        next reader reader_eq =>
          split at read_eq
          next => cases read_eq
          next afterColon colon_eq =>
            obtain ⟨rfl, head, rest_eq, part_ok, headTaken⟩ :=
              takes_memberName loose name_eq colon_eq
            split at read_eq
            next => cases read_eq
            next more after value_eq =>
              obtain ⟨value, value_ok, afterColon_eq, valueTaken⟩ :=
                (consumes _ _ _ reader_eq).inside _ _ _ _ value_eq
              split at read_eq
              next => cases read_eq
              next all final others_eq =>
                cases read_eq
                have shorter : after.val.length < bytes.length :=
                  Nat.lt_trans after.shorter (Nat.lt_trans afterColon.shorter
                    (Nat.lt_trans afterName.shorter rest.shorter))
                obtain ⟨text, text_ok, after_eq, taken⟩ := ih _ shorter _ _ _ _ others_eq rfl
                refine ⟨_, derives_part lead_ok (part_ok _ value_ok) text_ok, bytes_eq.trans ?_, ?_⟩
                · simp [rest_eq, afterColon_eq, after_eq]
                · intro others behind follows others_eq
                  simp only [List.append_assoc, List.cons_append] at others_eq
                  obtain ⟨place, looked, place_eq⟩ :=
                    @upcoming_part_complete .object first _ _ _ 0x22 lead_ok rfl (by decide)
                      others_eq
                  obtain ⟨atName, name_eq, atColon, colon_eq, atColon_eq⟩ := headTaken _ _ place_eq
                  obtain ⟨atEnd, value_eq, atEnd_eq⟩ :=
                    valueTaken _ _ (text_ok.endsNumber behind) atColon_eq
                  obtain ⟨last, others_eq, last_eq⟩ := taken _ behind follows atEnd_eq
                  rw [members, looked]
                  simp only [name_eq, reader_eq, colon_eq, value_eq, others_eq]
                  exact ⟨_, rfl, last_eq⟩

end SignIn.Json
