import SignIn.Proofs.Json.Containers

/-!
# What readers take

Every reader takes one value of the grammar.  A reader that passes over nothing takes only strings
that are Unicode.
-/

namespace SignIn.Json

variable {α δ : Type} {Str : Bytes → Prop}

/-- A value without parts is taken from its first byte on. -/
def TakesScalar (Str : Bytes → Prop) (byte : UInt8) (bytes : Bytes) (value : Value)
    (last : Upto bytes) : Prop :=
  ∃ text, IsScalar Str text ∧ byte :: bytes = text ++ last.val ∧
    ∀ others rest, EndsNumber rest → byte :: others = text ++ rest →
      ∃ final, scalar byte others = .ok (value, final) ∧ final.val = rest

theorem takesScalar_keyword {byte : UInt8} {bytes letters : Bytes} {meaning value : Value}
    {last : Upto bytes} (text_ok : IsScalar Str (byte :: letters))
    (scalar_eq : ∀ others, scalar byte others = keyword (letters.map ascii) meaning others)
    (read_eq : scalar byte bytes = .ok (value, last)) : TakesScalar Str byte bytes value last := by
  rw [scalar_eq] at read_eq
  obtain ⟨final, expected, pair_eq⟩ := map_eq_ok_iff.1 read_eq
  cases pair_eq
  refine ⟨_, text_ok, congrArg (byte :: ·) (expect_sound expected),
    fun others rest _ others_eq => ?_⟩
  cases others_eq
  obtain ⟨final, expected, final_eq⟩ := @expect_complete letters _ rest rfl
  refine ⟨final, ?_, final_eq⟩
  rw [scalar_eq]
  exact map_eq_ok_iff.2 ⟨final, expected, rfl⟩

/-- A digit starts a number. -/
theorem scalar_digit {byte : UInt8} (digit : isDigit byte = true) (bytes : Bytes) :
    scalar byte bytes =
      (number false (byte :: bytes)).map fun (content, last) =>
        (.number content, last.uncons) := by
  unfold scalar
  split
  next byte_eq => exact absurd byte_eq (@digit_ne byte 0x6E digit rfl)
  next byte_eq => exact absurd byte_eq (@digit_ne byte 0x74 digit rfl)
  next byte_eq => exact absurd byte_eq (@digit_ne byte 0x66 digit rfl)
  next byte_eq => exact absurd byte_eq (@digit_ne byte 0x22 digit rfl)
  next byte_eq => exact absurd byte_eq (@digit_ne byte 0x2D digit rfl)
  next => rw [if_pos digit]

theorem takesScalar (loose : ∀ text, IsText text → Str text) {byte : UInt8} {bytes : Bytes}
    {value : Value} {last : Upto bytes} (read_eq : scalar byte bytes = .ok (value, last)) :
    TakesScalar Str byte bytes value last := by
  have scalar_eq := read_eq
  unfold scalar at read_eq
  split at read_eq
  next byte_eq =>
    cases @ascii_injective byte 0x6E byte_eq
    exact @takesScalar_keyword _ _ _ [0x75, 0x6C, 0x6C] _ _ _ .null (fun _ => rfl) scalar_eq
  next byte_eq =>
    cases @ascii_injective byte 0x74 byte_eq
    exact @takesScalar_keyword _ _ _ [0x72, 0x75, 0x65] _ _ _ .isTrue (fun _ => rfl) scalar_eq
  next byte_eq =>
    cases @ascii_injective byte 0x66 byte_eq
    exact @takesScalar_keyword _ _ _ [0x61, 0x6C, 0x73, 0x65] _ _ _ .isFalse (fun _ => rfl)
      scalar_eq
  next byte_eq =>
    cases @ascii_injective byte 0x22 byte_eq
    obtain ⟨⟨content, final⟩, string_eq, pair_eq⟩ := map_eq_ok_iff.1 read_eq
    cases pair_eq
    obtain ⟨text, text_ok, bytes_eq, taken⟩ := reads_stringBody _ _ _ string_eq
    refine ⟨_, .string (loose _ text_ok), congrArg (0x22 :: ·) bytes_eq, ?_⟩
    intro others rest _ others_eq
    cases others_eq
    obtain ⟨final, string_eq, final_eq⟩ := taken _ rest trivial rfl
    exact ⟨final.upto, map_eq_ok_iff.2 ⟨_, string_eq, rfl⟩, final_eq⟩
  next byte_eq =>
    cases @ascii_injective byte 0x2D byte_eq
    obtain ⟨⟨content, final⟩, number_eq, pair_eq⟩ := map_eq_ok_iff.1 read_eq
    cases pair_eq
    obtain ⟨text, text_ok, bytes_eq, taken⟩ := reads_number true _ _ _ number_eq
    refine ⟨_, .number (.negative text_ok), congrArg (0x2D :: ·) bytes_eq, ?_⟩
    intro others rest ends others_eq
    cases others_eq
    obtain ⟨final, number_eq, final_eq⟩ := taken _ rest ends rfl
    exact ⟨final.upto, map_eq_ok_iff.2 ⟨_, number_eq, rfl⟩, final_eq⟩
  next =>
    split at read_eq
    next digit =>
      obtain ⟨⟨content, final⟩, number_eq, pair_eq⟩ := map_eq_ok_iff.1 read_eq
      cases pair_eq
      obtain ⟨text, text_ok, bytes_eq, taken⟩ := reads_number false _ _ _ number_eq
      refine ⟨_, .number (.unsigned text_ok), bytes_eq, ?_⟩
      intro others rest ends others_eq
      obtain ⟨final, number_eq, final_eq⟩ := taken _ rest ends others_eq
      refine ⟨final.uncons, ?_, final_eq⟩
      rw [scalar_digit digit]
      exact map_eq_ok_iff.2 ⟨_, number_eq, rfl⟩
    next => cases read_eq

/-! ## Forms -/

/-- What has to follow a value of a form: if it may be a number, something that ends one. -/
def Form.Follows (form : Form α) (Follows : Bytes → Prop) : Prop :=
  ∀ value content, form.scalar value = some content → ∀ rest, Follows rest → EndsNumber rest

theorem consumes_form (loose : ∀ text, IsText text → Str text) {form : Form α}
    {Follows : Bytes → Prop} (follows_ok : form.Follows Follows)
    (inner_ok : ∀ frame reader, form.inner frame = some reader →
      Consumes reader (Derives Str (.inside frame)) Anything) :
    Consumes form.read (Derives Str .value) Follows := by
  intro bytes content last read_eq
  unfold Form.read at read_eq
  split at read_eq
  next => cases read_eq
  next byte rest found =>
    obtain ⟨blank, blank_ok, not_space, bytes_eq⟩ := next?_sound found
    split at read_eq
    next frame opened =>
      cases opened?_eq_some_iff.1 opened
      split at read_eq
      next => cases read_eq
      next reader reader_eq =>
        split at read_eq
        next => cases read_eq
        next content final inner_eq =>
          cases read_eq
          obtain ⟨text, text_ok, rest_eq, taken⟩ := inner_ok frame reader reader_eq _ _ _ inner_eq
          refine ⟨_, .container blank_ok text_ok, bytes_eq.trans ?_, ?_⟩
          · simp [rest_eq]
          · intro others behind _ others_eq
            rw [List.append_assoc] at others_eq
            obtain ⟨start, found, start_eq⟩ := next?_complete blank_ok not_space others_eq
            obtain ⟨last, inner_eq, last_eq⟩ := taken _ behind trivial start_eq
            refine ⟨start.before last.upto, ?_, last_eq⟩
            simp only [Form.read, found, opened?_opening, reader_eq, inner_eq]
    next not_opened =>
      split at read_eq
      next => cases read_eq
      next value final scalar_eq =>
        split at read_eq
        next => cases read_eq
        next content content_eq =>
          cases read_eq
          obtain ⟨text, text_ok, rest_eq, taken⟩ := takesScalar loose scalar_eq
          refine ⟨_, .scalar blank_ok text_ok, bytes_eq.trans ?_, ?_⟩
          · simp [rest_eq]
          · intro others behind follows others_eq
            obtain ⟨first, more, rfl, _⟩ := text_ok.head
            cases (List.cons.inj rest_eq).1
            rw [List.append_assoc] at others_eq
            obtain ⟨start, found, start_eq⟩ := next?_complete blank_ok not_space others_eq
            obtain ⟨last, scalar_eq, last_eq⟩ :=
              taken start.val behind (follows_ok _ _ content_eq _ follows)
                (congrArg (byte :: ·) start_eq)
            refine ⟨start.before last, ?_, last_eq⟩
            simp only [Form.read, found, not_opened, scalar_eq, content_eq]

/-- A form without scalars may be followed by anything. -/
theorem follows_anything {form : Form α} (no_scalar : ∀ value, form.scalar value = none) :
    form.Follows Anything := by
  intro value content content_eq
  rw [no_scalar value] at content_eq
  cases content_eq

theorem follows_endsNumber (form : Form α) : form.Follows EndsNumber :=
  fun _ _ _ _ ends => ends

theorem consumes_text (loose : ∀ text, IsText text → Str text) :
    Consumes text (Derives Str .value) EndsNumber := by
  refine consumes_form loose (follows_endsNumber _) fun frame reader reader_eq => ?_
  cases frame <;> cases reader_eq

theorem consumes_valueMembers (loose : ∀ text, IsText text → Str text) {value : Reader Value}
    (consumes : Consumes value (Derives Str .value) EndsNumber) :
    Consumes (valueMembers value) (Derives Str (.inside .object)) Anything := by
  refine consumes_members loose (fun gathered name reader reader_eq => ?_) true Dictionary.empty
  cases reader_eq
  exact consumes.map _

theorem consumes_value (loose : ∀ text, IsText text → Str text) (depth : Nat) :
    Consumes (value depth) (Derives Str .value) EndsNumber := by
  induction depth with
  | zero =>
    refine consumes_form loose (follows_endsNumber _) fun frame reader reader_eq => ?_
    cases frame <;> cases reader_eq <;> exact consumes_failing _ _ _
  | succ depth ih =>
    refine consumes_form loose (follows_endsNumber _) fun frame reader reader_eq => ?_
    cases frame with
    | array =>
      cases reader_eq
      exact (consumes_items ih 0).map _
    | object =>
      cases reader_eq
      exact (consumes_valueMembers loose ih).map _

/-- An object is taken whatever follows it. -/
theorem consumes_object : Consumes object (Derives IsText .value) Anything := by
  refine consumes_form (fun _ text_ok => text_ok) (follows_anything fun _ => rfl)
    fun frame reader reader_eq => ?_
  cases frame with
  | array => cases reader_eq
  | object =>
    cases reader_eq
    exact consumes_valueMembers (fun _ text_ok => text_ok) (consumes_value (fun _ ok => ok) _)

/-! ## Records -/

theorem consumes_skipped : Consumes skipped (Derives IsString .value) EndsNumber := by
  intro bytes content last read_eq
  obtain ⟨final, skip_eq, pair_eq⟩ := map_eq_ok_iff.1 (mapError_eq_ok_iff.1 read_eq)
  cases pair_eq
  obtain ⟨text, text_ok, bytes_eq⟩ := skip_sound skip_eq
  refine ⟨text, text_ok, bytes_eq, fun others rest ends others_eq => ?_⟩
  obtain ⟨final, skip_eq, final_eq⟩ := skip_complete text_ok ends others_eq
  exact ⟨final, mapError_eq_ok_iff.2 (map_eq_ok_iff.2 ⟨_, skip_eq, rfl⟩), final_eq⟩

/-- A record is taken whatever follows it.  What is passed over in it need not be Unicode. -/
theorem consumes_record {record : Record δ α}
    (consumes : ∀ field ∈ record.fields, ∀ draft,
      Consumes (field.fill draft) (Derives IsString .value) EndsNumber) :
    Consumes record.read (Derives IsString .value) Anything := by
  have loose : ∀ text, IsText text → IsString text := fun _ text_ok => text_ok.1
  have member_ok : ∀ draft name reader, record.take draft name = .ok reader →
      Consumes reader (Derives IsString .value) EndsNumber := by
    intro draft name reader reader_eq
    unfold Record.take at reader_eq
    split at reader_eq
    next =>
      cases reader_eq
      exact consumes_skipped.map _
    next field found =>
      split at reader_eq
      next => cases reader_eq
      next =>
        cases reader_eq
        exact consumes field (List.mem_of_find?_eq_some found) draft
  refine consumes_form loose (follows_anything fun _ => rfl) fun frame reader reader_eq => ?_
  cases frame with
  | array =>
    cases reader_eq
    exact (consumes_arrayFields record.arrayTitle consumes 0 record.blank).refine _
  | object =>
    cases reader_eq
    exact (consumes_members loose member_ok true record.blank).refine _

end SignIn.Json
