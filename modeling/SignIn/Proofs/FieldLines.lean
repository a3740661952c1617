import SignIn.Message
import SignIn.Proofs.Except
import SignIn.Proofs.Headers
import SignIn.Proofs.Text

/-!
# Fields as headers

The fields of a request or a response are written as lines and read back as headers.  Names come
back as they are, since a token holds no colon, no blank and no capital; values come back decoded
and trimmed.
-/

namespace SignIn

namespace Http

/-! ## Tokens -/

theorem isToken_iff {text : List Char} :
    isToken text = true ↔ text ≠ [] ∧ ∀ char ∈ text, isTokenChar char = true := by
  rw [isToken, Bool.and_eq_true, List.all_eq_true]
  simp

theorem isTokenChar_bounds {char : Char} (token : isTokenChar char = true) :
    0x21 ≤ char.toNat ∧ char.toNat ≤ 0x7E ∧ char ≠ ':' := by
  rw [isTokenChar, Bool.or_eq_true] at token
  rcases token with alphanumeric | special
  · have not_colon : char ≠ ':' := by
      rintro rfl
      exact absurd alphanumeric (by decide)
    have bounds := Text.isAlphanum_bounds alphanumeric
    exact ⟨by omega, by omega, not_colon⟩
  · rw [List.contains_iff_mem] at special
    have checked := (@List.all_eq_true _
      (fun other => decide (0x21 ≤ other.toNat ∧ other.toNat ≤ 0x7E ∧ other ≠ ':')) _).1
        (by decide) char special
    exact of_decide_eq_true checked

theorem not_isBlank_of_isTokenChar {char : Char} (token : isTokenChar char = true) :
    Text.isBlank char = false := by
  obtain ⟨above, below, -⟩ := isTokenChar_bounds token
  exact Text.not_isBlank_of_visible above (Nat.lt_succ_of_le below)

namespace FieldName

/-- The text of a name. -/
def text (name : FieldName) : String := String.ofList name.chars

theorem isTokenChar_of_mem {name : FieldName} {char : Char} (member : char ∈ name.chars) :
    isTokenChar char = true :=
  (isToken_iff.1 name.token.1).2 char member

theorem not_isUpper_of_mem {name : FieldName} {char : Char} (member : char ∈ name.chars) :
    char.isUpper = false := by
  have lowered : name.chars.map Char.toLower = name.chars.map id := by
    rw [name.token.2, List.map_id]
  have same : char.toLower = char := List.map_inj_left.1 lowered char member
  cases upper : char.isUpper with
  | false => rfl
  | true =>
    clear member lowered
    obtain ⟨index, rfl⟩ := Text.eq_ofNat_of_isUpper upper
    revert same index
    decide

theorem toLower_chars (name : FieldName) : Text.toLower name.chars = name.chars := by
  apply Text.lowerFrom_of_isLower
  intro char member
  have bounds := isTokenChar_bounds (isTokenChar_of_mem member)
  exact Text.isLower_of_ascii (by omega) (of_decide_eq_false (not_isUpper_of_mem member))

theorem trim_chars (name : FieldName) : Text.trim name.chars = name.chars :=
  Text.trim_eq_self fun _ member => not_isBlank_of_isTokenChar (isTokenChar_of_mem member)

theorem text_inj {name other : FieldName} : name.text = other.text ↔ name = other := by
  obtain ⟨chars, token⟩ := name
  obtain ⟨others, others_token⟩ := other
  rw [text, text, String.ofList_inj, mk.injEq]

end FieldName

/-! ## Lines -/

/-- The text of a value as headers show it. -/
def FieldValue.shown (value : FieldValue) : String :=
  String.ofList (Text.trim (Utf8.decodeLossy value.bytes))

theorem readLine?_headerLine (pair : FieldName × FieldValue) :
    Headers.readLine? (headerLine pair) = some (pair.1.text, pair.2.shown) := by
  obtain ⟨name, value⟩ := pair
  have no_colon : ':' ∉ name.chars := fun member =>
    (isTokenChar_bounds (FieldName.isTokenChar_of_mem member)).2.2 rfl
  rw [Headers.readLine?, headerLine, String.toList_ofList, Text.splitOnce?_of_not_mem no_colon]
  simp only [Option.map_some, name.trim_chars, name.toLower_chars, Text.trim_space]
  rfl

namespace Fields

/-- Fields as they can be: a name stands for one field, and a field has values. -/
structure WellFormed (fields : Fields) : Prop where
  /-- No name has two fields. -/
  distinct : (fields.map (·.name)).Nodup
  /-- No field is without values. -/
  filled : ∀ field ∈ fields, field.values ≠ []

theorem mem_map_name_append {name other : FieldName} {value : FieldValue} {fields : Fields} :
    other ∈ (fields.append name value).map (·.name) ↔
      other = name ∨ other ∈ fields.map (·.name) := by
  induction fields with
  | nil => simp [append]
  | cons field rest ih =>
    rw [append]
    by_cases same : field.name = name
    · simp [same]
    · rw [if_neg same, List.map_cons, List.mem_cons, ih, List.map_cons, List.mem_cons]
      exact or_left_comm

theorem WellFormed.append {fields : Fields} (kept : fields.WellFormed) (name : FieldName)
    (value : FieldValue) : (fields.append name value).WellFormed := by
  induction fields with
  | nil => exact ⟨by simp [Fields.append], by simp [Fields.append]⟩
  | cons field rest ih =>
    have distinct := List.nodup_cons.1 kept.distinct
    have rest_kept : WellFormed rest :=
      ⟨distinct.2, fun other member => kept.filled other (List.mem_cons_of_mem _ member)⟩
    rw [Fields.append]
    by_cases same : field.name = name
    · rw [if_pos same]
      refine ⟨kept.distinct, fun other member => ?_⟩
      rcases List.mem_cons.1 member with rfl | later
      · simp
      · exact rest_kept.filled other later
    · rw [if_neg same]
      have appended := ih rest_kept
      refine ⟨List.nodup_cons.2 ⟨fun member => ?_, appended.distinct⟩, fun other member => ?_⟩
      · rcases mem_map_name_append.1 member with equal | earlier
        · exact same equal
        · exact distinct.1 earlier
      · rcases List.mem_cons.1 member with rfl | later
        · exact kept.filled other List.mem_cons_self
        · exact appended.filled other later

theorem WellFormed.add {fields next : Fields} {given : String × Bytes} (kept : fields.WellFormed)
    (added : fields.add given = .ok next) : next.WellFormed := by
  unfold Fields.add at added
  split at added
  next => cases added
  next name _ =>
    split at added
    next => cases added
    next value _ =>
      cases added
      exact kept.append name value

/-- Whatever is read of named values is well-formed. -/
theorem wellFormed_of_read {given : List (String × Bytes)} {fields : Fields}
    (read_eq : read given = .ok fields) : fields.WellFormed := by
  have nothing : WellFormed [] := ⟨by simp, by simp⟩
  exact foldlM_ok (fun _ _ _ kept added => kept.add added) nothing read_eq

/-- What the lines of fields say. -/
def shownPairs (fields : Fields) : List (String × String) :=
  fields.pairs.map fun pair => (pair.1.text, pair.2.shown)

theorem filterMap_readLine?_lines (fields : Fields) :
    fields.lines.filterMap Headers.readLine? = fields.shownPairs := by
  have read_line : Headers.readLine? ∘ headerLine =
      some ∘ fun pair => (pair.1.text, pair.2.shown) := funext readLine?_headerLine
  rw [lines, List.filterMap_map, read_line, List.filterMap_eq_map]
  rfl

theorem readable_lines (fields : Fields) :
    ∀ line ∈ fields.lines, Headers.readLine? line ≠ none := by
  intro line member
  obtain ⟨pair, -, rfl⟩ := List.mem_map.1 member
  rw [readLine?_headerLine]
  exact Option.some_ne_none _

theorem shownPairs_cons (field : Field) (rest : Fields) :
    shownPairs (field :: rest) =
      field.values.map (fun value => (field.name.text, value.shown)) ++ shownPairs rest := by
  simp [shownPairs, pairs]

theorem mem_names_shownPairs {fields : Fields} (kept : fields.WellFormed) {name : String} :
    name ∈ fields.shownPairs.map (·.1) ↔ name ∈ fields.map (·.name.text) := by
  simp only [shownPairs, pairs, List.map_map, List.mem_map, List.mem_flatMap, Function.comp_apply]
  constructor
  · rintro ⟨pair, ⟨field, field_member, value, -, rfl⟩, rfl⟩
    exact ⟨field, field_member, rfl⟩
  · rintro ⟨field, field_member, rfl⟩
    obtain ⟨value, member⟩ := List.exists_mem_of_ne_nil _ (kept.filled field field_member)
    exact ⟨(field.name, value), ⟨field, field_member, value, member, rfl⟩, rfl⟩

theorem values_cons (field : Field) (rest : Fields) (chars : List Char) :
    values (field :: rest) chars =
      if field.name.chars = chars then field.values else values rest chars := by
  by_cases same : field.name.chars = chars <;> simp [values, same]

theorem values_eq_nil {fields : Fields} {chars : List Char}
    (absent : ∀ field ∈ fields, field.name.chars ≠ chars) : values fields chars = [] := by
  have none_found : fields.find? (fun field => field.name.chars == chars) = none := by
    simpa using absent
  rw [values, none_found]

/-- Lines give each name the values of its field. -/
theorem valuesOf_shownPairs {fields : Fields} (distinct : (fields.map (·.name)).Nodup)
    (chars : List Char) :
    Headers.valuesOf (String.ofList chars) fields.shownPairs =
      (fields.values chars).map (·.shown) := by
  induction fields with
  | nil => rfl
  | cons field rest ih =>
    have parts := List.nodup_cons.1 distinct
    rw [shownPairs_cons, Headers.valuesOf_append, Headers.valuesOf_map_of_one_name, ih parts.2,
      values_cons]
    have text_iff : field.name.text = String.ofList chars ↔ field.name.chars = chars :=
      String.ofList_inj
    by_cases same : field.name.chars = chars
    · -- No later field has the name, so nothing is added to the values of this one.
      have rest_other : ∀ other ∈ rest, other.name.chars ≠ chars := by
        intro other member other_same
        have names_eq : other.name = field.name :=
          FieldName.text_inj.1 (by rw [FieldName.text, FieldName.text, other_same, same])
        exact parts.1 (List.mem_map.2 ⟨other, member, names_eq⟩)
      rw [if_pos (text_iff.2 same), if_pos same, values_eq_nil rest_other, List.map_nil,
        List.append_nil]
    · rw [if_neg (mt text_iff.1 same), if_neg same, List.nil_append]

end Fields

end Http

/-! ## Messages -/

/-- Headers that say what fields say: they have the same names, and for each name, in whatever case
it is looked up, the same values in the same order. -/
structure Headers.Mirrors (headers : Headers) (fields : Http.Fields) : Prop where
  /-- The names are those of the fields. -/
  names_perm : headers.names.Perm (fields.map (·.name.text))
  /-- The values are those of the field of that name, decoded and trimmed. -/
  get_eq : ∀ name, headers.get name =
    (fields.values (Text.toLower name.toList)).map (·.shown)

theorem Http.Fields.WellFormed.mirrors {fields : Fields} (kept : fields.WellFormed)
    (first : String) :
    ∃ headers, Headers.ofHead (first :: fields.lines) = .ok headers ∧ headers.Mirrors fields := by
  obtain ⟨headers, headers_eq, mem_names_iff, get_eq⟩ :=
    Headers.ofHead_of_readable first fields.readable_lines
  simp only [fields.filterMap_readLine?_lines] at mem_names_iff get_eq
  have fields_nodup : (fields.map (·.name.text)).Nodup := by
    have different := List.pairwise_map.1 kept.distinct
    apply List.pairwise_map.2
    exact different.imp fun names_ne same => names_ne (FieldName.text_inj.1 same)
  refine ⟨headers, headers_eq, ?_, fun name => ?_⟩
  · apply (List.perm_ext_iff_of_nodup headers.values.keys_nodup fields_nodup).2
    exact fun name => (mem_names_iff name).trans (mem_names_shownPairs kept)
  · rw [get_eq, Text.lowerCase, valuesOf_shownPairs kept.distinct]

/-- The head of every request and every response can be read, and its headers say what its fields
say.  Its first line adds nothing to them. -/
theorem headers_mirror_fields :
    (∀ request : Http.Request, request.fields.WellFormed →
      ∃ headers, request.message.headers = .ok headers ∧ headers.Mirrors request.fields) ∧
    (∀ response : Http.Response, response.fields.WellFormed →
      ∃ headers, response.message.headers = .ok headers ∧ headers.Mirrors response.fields) ∧
    ∀ given fields, Http.Fields.read given = .ok fields → fields.WellFormed :=
  ⟨fun request kept => kept.mirrors request.line, fun response kept => kept.mirrors response.line,
    fun _ _ read_eq => Http.Fields.wellFormed_of_read read_eq⟩

/-- Two values of one name, in a line each, and a value that is not UTF-8. -/
theorem headers_mirror_fields_cookies :
    let given := [("Set-Cookie", Utf8.encode "a: 1 ".toList), ("X-Odd", [0x09, 0xC3, 0x20]),
      ("set-cookie", Utf8.encode "  b".toList)]
    ∃ request headers, Http.Request.build "GET" "/cb" .http11 given [] = .ok request ∧
      request.message.headers = .ok headers ∧ headers.Mirrors request.fields ∧
      headers.get "SET-COOKIE" = ["a: 1", "b"] ∧ headers.get "x-odd" = ["\uFFFD"] := by
  intro given
  have read_eq : ∃ fields, Http.Fields.read given = .ok fields ∧
      (fields.values "set-cookie".toList).map (·.shown) = ["a: 1", "b"] ∧
      (fields.values "x-odd".toList).map (·.shown) = ["\uFFFD"] :=
    ⟨_, rfl, by decide +kernel, by decide +kernel⟩
  obtain ⟨fields, read_eq, cookies_eq, odd_eq⟩ := read_eq
  have target_eq : ∃ target, Http.Target.read "/cb".toList = .ok target := ⟨_, rfl⟩
  obtain ⟨target, target_eq⟩ := target_eq
  have method_eq : Http.Method.read? "GET".toList = some .get := rfl
  have build_eq : Http.Request.build "GET" "/cb" .http11 given [] =
      .ok ⟨.get, target, .http11, fields, []⟩ := by
    simp only [Http.Request.build, method_eq, target_eq, read_eq]
  obtain ⟨headers, headers_eq, mirrors⟩ := headers_mirror_fields.1
    ⟨.get, target, .http11, fields, []⟩ (headers_mirror_fields.2.2 given fields read_eq)
  refine ⟨_, headers, build_eq, headers_eq, mirrors, ?_, ?_⟩
  · rw [mirrors.get_eq]
    exact cookies_eq
  · rw [mirrors.get_eq]
    exact odd_eq

end SignIn
