import Mathlib.Data.List.TakeWhile
import SignIn.Proofs.Json.Spelling
import SignIn.Proofs.Json.Values

/-!
# What readers make of values

A reader makes the same of a value however it is spelled: it comes to a content and leaves what
follows, or it fails.  For a record this is a fold over the members of an object, so the order of
the members matters as little as it does to the fields that they fill.
-/

namespace SignIn.Json

variable {α β δ : Type}

/-- Reading has come to a content and left what follows it, or has failed for want of a content. -/
def Leaves {bytes : Bytes} (result : Except Failure (α × Rest bytes)) (made : Option α)
    (rest : Bytes) : Prop :=
  match made with
  | some content => ∃ last, result = .ok (content, last) ∧ last.val = rest
  | none => ∃ failure, result = .error failure

/-- What a reader makes of a value, in whatever way the value is spelled. -/
def Makes (reader : Reader α) (tree : Tree) (made : Option α) : Prop :=
  ∀ text bytes rest, Spells (.value tree) text → EndsNumber rest → bytes = text ++ rest →
    Leaves (reader bytes) made rest

/-! ## Changes -/

theorem Leaves.refine {reader : Reader α} {bytes rest : Bytes} {made : Option α}
    (leaves : Leaves (reader bytes) made rest) (change : α → Except Fault β) :
    Leaves (reader.refine change bytes) (made.bind fun content => (change content).toOption)
      rest := by
  cases made with
  | none =>
    obtain ⟨failure, failed⟩ := leaves
    exact ⟨failure, by simp only [Reader.refine, failed]⟩
  | some content =>
    obtain ⟨last, read_eq, last_eq⟩ := leaves
    rw [Option.bind_some]
    cases change_eq : change content with
    | error fault => exact ⟨.here fault, by simp only [Reader.refine, read_eq, change_eq]⟩
    | ok changed => exact ⟨last, by simp only [Reader.refine, read_eq, change_eq], last_eq⟩

theorem Leaves.inside {reader : Reader α} {bytes rest : Bytes} {made : Option α}
    (leaves : Leaves (reader bytes) made rest) (step : Step) :
    Leaves (reader.inside step bytes) made rest := by
  cases made with
  | none =>
    obtain ⟨failure, failed⟩ := leaves
    exact ⟨failure.inside step, by simp only [Reader.inside, failed, mapError_error]⟩
  | some content =>
    obtain ⟨last, read_eq, last_eq⟩ := leaves
    exact ⟨last, by simp only [Reader.inside, read_eq, mapError_ok], last_eq⟩

theorem Makes.refine {reader : Reader α} {tree : Tree} {made : Option α}
    (makes : Makes reader tree made) (change : α → Except Fault β) :
    Makes (reader.refine change) tree (made.bind fun content => (change content).toOption) :=
  fun text bytes rest spelled ends bytes_eq =>
    (makes text bytes rest spelled ends bytes_eq).refine change

theorem Makes.map {reader : Reader α} {tree : Tree} {made : Option α}
    (makes : Makes reader tree made) (change : α → β) :
    Makes (reader.map change) tree (made.map change) := by
  have changed := makes.refine fun content => (.ok (change content) : Except Fault β)
  cases made <;> exact changed

/-! ## First bytes -/

/-- A value may start with a byte, behind its blanks. -/
def Tree.Starts : Tree → UInt8 → Prop
  | .null, byte => byte = 0x6E
  | .bool true, byte => byte = 0x74
  | .bool false, byte => byte = 0x66
  | .number _ _, byte => isDigit byte = true ∨ byte = 0x2D
  | .string _, byte => byte = 0x22
  | .array _, byte => byte = 0x5B
  | .object _, byte => byte = 0x7B

theorem Spells.head {tree : Tree} {text : Bytes} (spelled : Spells (.value tree) text) :
    ∃ blank byte more, IsBlank blank ∧ tree.Starts byte ∧ text = blank ++ byte :: more := by
  cases spelled with
  | null blank_ok | isTrue blank_ok | isFalse blank_ok => exact ⟨_, _, _, blank_ok, rfl, rfl⟩
  | string blank_ok | array blank_ok | object blank_ok => exact ⟨_, _, _, blank_ok, rfl, rfl⟩
  | number digits_ok blank_ok =>
    cases digits_ok with
    | negative _ => exact ⟨_, _, _, blank_ok, .inr rfl, rfl⟩
    | unsigned text_ok =>
      obtain ⟨byte, more, rfl, digit⟩ := text_ok.head
      exact ⟨_, _, _, blank_ok, .inl digit, rfl⟩

theorem isSpace_of_isDigit {byte : UInt8} (digit : isDigit byte = true) :
    isSpace byte = false := by
  by_contra space
  simp only [Bool.not_eq_false, isSpace, Bool.or_eq_true, beq_iff_eq] at space
  rcases space with ((rfl | rfl) | rfl) | rfl <;> cases digit

theorem Tree.Starts.not_space {tree : Tree} {byte : UInt8} (starts : tree.Starts byte) :
    isSpace byte = false := by
  cases tree with
  | bool truth => cases truth <;> cases starts <;> rfl
  | number => exact starts.elim isSpace_of_isDigit (by rintro rfl; rfl)
  | null | string | array | object => cases starts; rfl

/-! ## Texts -/

/-- The content of a text value. -/
def Tree.text? : Tree → Option String
  | .string content => some content
  | _ => none

theorem Tree.text?_eq_some_iff {tree : Tree} {content : String} :
    tree.text? = some content ↔ tree = .string content := by
  cases tree <;> simp [text?]

theorem Value.text?_eq_some_iff {value : Value} {content : String} :
    value.text? = some content ↔ value = .string content := by
  cases value <;> simp [text?]

theorem Tree.Starts.quote {tree : Tree} (starts : tree.Starts 0x22) :
    ∃ content, tree = .string content := by
  cases tree with
  | string content => exact ⟨content, rfl⟩
  | bool truth => cases truth <;> cases starts
  | number => rcases starts with digit | minus <;> contradiction
  | null | array | object => cases starts

/-- Only a string is read as a text. -/
theorem scalar_text {byte : UInt8} {bytes : Bytes} {value : Value} {last : Upto bytes}
    {content : String} (scalar_eq : scalar byte bytes = .ok (value, last))
    (value_eq : value.text? = some content) : byte = 0x22 := by
  unfold scalar keyword at scalar_eq
  split at scalar_eq
  case h_4 => exact @ascii_injective byte 0x22 (by assumption)
  case h_6 =>
    split at scalar_eq
    · obtain ⟨_, _, pair_eq⟩ := map_eq_ok_iff.1 scalar_eq
      cases pair_eq
      cases value_eq
    · cases scalar_eq
  all_goals
    obtain ⟨_, _, pair_eq⟩ := map_eq_ok_iff.1 scalar_eq
    cases pair_eq
    cases value_eq

/-- The form of a text, whatever a diagnostic calls it. -/
def textForm (expected : String) : Form String := ⟨expected, Value.text?, none, none⟩

theorem textForm_refuses (expected : String) {bytes blank more : Bytes} {byte : UInt8}
    (blank_ok : IsBlank blank) (not_space : isSpace byte = false) (no_quote : byte ≠ 0x22)
    (bytes_eq : bytes = blank ++ byte :: more) :
    ∃ failure, (textForm expected).read bytes = .error failure := by
  obtain ⟨start, found, start_eq⟩ := next?_complete blank_ok not_space bytes_eq
  rw [Form.read]
  simp only [found]
  split
  next frame _ => cases frame <;> exact ⟨_, rfl⟩
  next =>
    split
    next => exact ⟨_, rfl⟩
    next value last scalar_eq =>
      split
      next => exact ⟨_, rfl⟩
      next content content_eq => exact absurd (scalar_text scalar_eq content_eq) no_quote

/-- A text is read from a string and from nothing else. -/
theorem makes_textForm (expected : String) (tree : Tree) :
    Makes (textForm expected).read tree tree.text? := by
  intro spelling bytes rest spelled ends bytes_eq
  cases text_eq : tree.text? with
  | none =>
    obtain ⟨blank, byte, more, blank_ok, starts, rfl⟩ := spelled.head
    have no_quote : byte ≠ 0x22 := by
      rintro rfl
      obtain ⟨content, tree_eq⟩ := starts.quote
      rw [Tree.text?_eq_some_iff.2 tree_eq] at text_eq
      cases text_eq
    rw [List.append_assoc] at bytes_eq
    exact textForm_refuses expected blank_ok starts.not_space no_quote bytes_eq
  | some content =>
    cases Tree.text?_eq_some_iff.1 text_eq
    cases spelled with
    | string blank_ok spelled_ok =>
      rw [List.append_assoc] at bytes_eq
      obtain ⟨start, found, start_eq⟩ := next?_complete blank_ok rfl bytes_eq
      obtain ⟨last, string_eq, last_eq⟩ := spelled_ok.takes start.val rest trivial start_eq
      have scalar_eq : scalar 0x22 start.val = .ok (.string content, last.upto) :=
        map_eq_ok_iff.2 ⟨_, string_eq, rfl⟩
      refine ⟨start.before last.upto, ?_, last_eq⟩
      rw [Form.read]
      simp only [found, show opened? 0x22 = none from rfl, scalar_eq, textForm, Value.text?]

theorem makes_text (tree : Tree) : Makes text tree tree.text? := makes_textForm "a string" tree

/-! ## Any values -/

/-- Any value can be passed over. -/
theorem makes_skipped (tree : Tree) : Makes skipped tree (some ()) := by
  intro spelling bytes rest spelled ends bytes_eq
  obtain ⟨last, skip_eq, last_eq⟩ := skip_complete spelled.derives ends bytes_eq
  exact ⟨last, mapError_eq_ok_iff.2 (map_eq_ok_iff.2 ⟨last, skip_eq, rfl⟩), last_eq⟩

theorem makes_nullable_null (reader : Reader α) : Makes (nullable reader) .null (some none) := by
  intro spelling bytes rest spelled ends bytes_eq
  cases spelled with
  | null blank_ok =>
    rw [List.append_assoc] at bytes_eq
    obtain ⟨start, found, start_eq⟩ := next?_complete blank_ok rfl bytes_eq
    obtain ⟨last, expected, last_eq⟩ := @expect_complete [0x75, 0x6C, 0x6C] _ rest start_eq
    refine ⟨start.before last, ?_, last_eq⟩
    have letters_eq : expect ['u', 'l', 'l'] start.val = .ok last := expected
    simp only [nullable, found, show ascii 0x6E = 'n' from rfl, if_true, letters_eq]

theorem Tree.Starts.letter {tree : Tree} (starts : tree.Starts 0x6E) : tree = .null := by
  cases tree with
  | null => rfl
  | bool truth => cases truth <;> cases starts
  | number => rcases starts with digit | minus <;> contradiction
  | string | array | object => cases starts

/-- What need not be there is read like anything else if it is there. -/
theorem Makes.nullable {reader : Reader α} {tree : Tree} {made : Option α}
    (makes : Makes reader tree made) (given : tree ≠ .null) :
    Makes (nullable reader) tree (made.map some) := by
  intro spelling bytes rest spelled ends bytes_eq
  have read := makes.map some spelling bytes rest spelled ends bytes_eq
  obtain ⟨blank, byte, more, blank_ok, starts, rfl⟩ := spelled.head
  have no_letter : ¬ascii byte = 'n' := by
    intro letter
    rw [@ascii_injective byte 0x6E letter] at starts
    exact given starts.letter
  rw [List.append_assoc] at bytes_eq
  obtain ⟨start, found, start_eq⟩ := next?_complete blank_ok starts.not_space bytes_eq
  simpa only [Json.nullable, found, if_neg no_letter] using read

/-! ## Members -/

/-- The member of an object that is read next decides what is made of it: nothing, if no reader has
been chosen for its value. -/
def Chooses (chosen : Except Fault (Reader δ)) (tree : Tree) (made : Option δ) : Prop :=
  match chosen with
  | .ok reader => Makes reader tree made
  | .error _ => made = none

/-- What is made of the members of an object is made of one after another. -/
theorem leaves_members {take : δ → String → Except Fault (Reader δ)}
    {step : δ → String × Tree → Option δ} {trees : List (String × Tree)}
    (chooses : ∀ member ∈ trees, ∀ gathered,
      Chooses (take gathered member.1) member.2 (step gathered member))
    {first : Bool} (gathered : δ) {text bytes rest : Bytes}
    (spelled : Spells (.members first trees) text) (bytes_eq : bytes = text ++ rest) :
    Leaves (members take first gathered bytes) (trees.foldlM step gathered) rest := by
  induction trees generalizing first gathered text bytes with
  | nil =>
    cases spelled with
    | noMembers blank_ok =>
      rw [List.append_assoc] at bytes_eq
      obtain ⟨last, looked, last_eq⟩ :=
        @upcoming_closing_complete .object first _ _ _ blank_ok bytes_eq
      refine ⟨last, ?_, last_eq⟩
      rw [members, looked]
  | cons member trees ih =>
    obtain ⟨chosen, later⟩ := List.forall_mem_cons.1 chooses
    cases spelled with
    | @member _ name value _ lead spelled gap text others lead_ok name_ok gap_ok text_ok
        others_ok =>
      simp only [List.append_assoc, List.cons_append] at bytes_eq
      obtain ⟨place, looked, place_eq⟩ :=
        @upcoming_part_complete .object first _ _ _ 0x22 lead_ok rfl (by decide) bytes_eq
      obtain ⟨afterName, string_eq, afterName_eq⟩ :=
        name_ok.takes place.val _ trivial place_eq
      have name_eq : memberName 0x22 place.val = .ok (name, afterName) := by
        rw [memberName, if_pos (show ascii 0x22 = '"' from rfl), string_eq]
      obtain ⟨afterColon, colon_eq, afterColon_eq⟩ := colon_complete gap_ok afterName_eq
      have chosen := chosen gathered
      rw [List.foldlM_cons, members, looked]
      simp only [name_eq]
      cases take_eq : take gathered name with
      | error fault =>
        rw [take_eq] at chosen
        have none_eq : step gathered (name, value) = none := chosen
        rw [none_eq]
        exact ⟨_, rfl⟩
      | ok reader =>
        rw [take_eq] at chosen
        have read := (chosen text afterColon.val (others ++ rest) text_ok
          (others_ok.derives.endsNumber rest) afterColon_eq).inside (.member name)
        simp only [colon_eq]
        cases step_eq : step gathered (name, value) with
        | none =>
          rw [step_eq] at read
          obtain ⟨failure, failed⟩ := read
          simp only [failed]
          exact ⟨_, rfl⟩
        | some more =>
          rw [step_eq] at read
          obtain ⟨after, read_eq, after_eq⟩ := read
          have others_left := ih later more others_ok after_eq
          simp only [read_eq]
          change Leaves _ (trees.foldlM step more) rest
          cases all_eq : trees.foldlM step more with
          | none =>
            rw [all_eq] at others_left
            obtain ⟨failure, failed⟩ := others_left
            exact ⟨failure, by simp only [failed]⟩
          | some all =>
            rw [all_eq] at others_left
            obtain ⟨last, others_eq, last_eq⟩ := others_left
            refine ⟨_, by simp only [others_eq]; rfl, last_eq⟩

/-! ## Objects -/

/-- What is made of an object is made of its members. -/
theorem makes_object {form : Form α} {inner : Reader α} (inner_eq : form.object = some inner)
    {trees : List (String × Tree)} {made : Option α}
    (leaves : ∀ text bytes rest, Spells (.members true trees) text → bytes = text ++ rest →
      Leaves (inner bytes) made rest) : Makes form.read (.object trees) made := by
  intro text bytes rest spelled _ bytes_eq
  cases spelled with
  | @object blank text _ blank_ok inner_ok =>
    rw [List.append_assoc] at bytes_eq
    obtain ⟨start, found, start_eq⟩ := next?_complete blank_ok rfl bytes_eq
    have read := leaves text start.val rest inner_ok start_eq
    have frame_eq : form.inner .object = some inner := inner_eq
    cases made with
    | none =>
      obtain ⟨failure, failed⟩ := read
      refine ⟨failure, ?_⟩
      simp only [Form.read, found, show opened? 0x7B = some .object from rfl, frame_eq, failed]
    | some content =>
      obtain ⟨last, read_eq, last_eq⟩ := read
      refine ⟨start.before last.upto, ?_, last_eq⟩
      simp only [Form.read, found, show opened? 0x7B = some .object from rfl, frame_eq, read_eq]

/-- The content of an object of texts; the last member of a name counts. -/
def Tree.texts? : Tree → Option (Dictionary String)
  | .object trees =>
    trees.foldlM (fun gathered member => member.2.text?.map (gathered.insert member.1)) .empty
  | _ => none

theorem Tree.texts?_object (pairs : List (String × String)) :
    (Tree.object (pairs.map fun pair => (pair.1, .string pair.2))).texts? =
      some (.ofList pairs) := by
  rw [texts?, List.foldlM_map]
  exact List.foldlM_pure

theorem makes_texts (trees : List (String × Tree)) :
    Makes texts (.object trees) (Tree.object trees).texts? := by
  refine makes_object rfl fun spelling bytes rest spelled bytes_eq => ?_
  refine leaves_members (fun member _ gathered => ?_) Dictionary.empty spelled bytes_eq
  exact (makes_text member.2).map _

/-! ## Records -/

/-- How a value changes a draft as the value of a field, whatever the draft holds. -/
def Fills (field : Field δ) (tree : Tree) (change : Option (δ → δ)) : Prop :=
  ∀ draft, Makes (field.fill draft) tree (change.map fun change => change draft)

theorem Makes.fills {reader : Reader α} {tree : Tree} {made : Option α}
    (makes : Makes reader tree made) {field : Field δ} {change : α → δ → δ}
    (fill_eq : ∀ draft, field.fill draft = reader.map fun content => change content draft) :
    Fills field tree (made.map change) := by
  intro draft
  rw [fill_eq, Option.map_map]
  exact makes.map fun content => change content draft

namespace Record

/-- What a record makes of one more member: a field is filled once, in the way that its value tells,
and a member that belongs to no field is passed over. -/
def step (record : Record δ α) (filling : String → Tree → Option (δ → δ)) (draft : δ)
    (member : String × Tree) : Option δ :=
  match record.fields.find? fun field => field.name == member.1 with
  | none => some draft
  | some field =>
    if field.filled draft then none
    else (filling field.name member.2).map fun change => change draft

/-- The field that is found for a name is one of the record and has that name. -/
theorem found_spec {record : Record δ α} {name : String} {field : Field δ}
    (found : record.fields.find? (fun field => field.name == name) = some field) :
    field ∈ record.fields ∧ field.name = name :=
  ⟨List.mem_of_find?_eq_some found, by simpa using List.find?_some found⟩

theorem chooses {record : Record δ α} {filling : String → Tree → Option (δ → δ)}
    {member : String × Tree}
    (fills : ∀ field ∈ record.fields, field.name = member.1 →
      Fills field member.2 (filling field.name member.2)) (draft : δ) :
    Chooses (record.take draft member.1) member.2 (record.step filling draft member) := by
  unfold take step
  cases found : record.fields.find? fun field => field.name == member.1 with
  | none => exact (makes_skipped member.2).map _
  | some field =>
    obtain ⟨inside, name_eq⟩ := found_spec found
    dsimp only
    split
    · rfl
    · exact fills field inside name_eq draft

/-- What is made of a record is made of its members one after another, and then of the draft that
they have filled. -/
theorem makes {record : Record δ α} {filling : String → Tree → Option (δ → δ)}
    {trees : List (String × Tree)}
    (fills : ∀ member ∈ trees, ∀ field ∈ record.fields, field.name = member.1 →
      Fills field member.2 (filling field.name member.2)) :
    Makes record.read (.object trees)
      ((trees.foldlM (record.step filling) record.blank).bind fun draft =>
        (record.finish draft).toOption) := by
  refine makes_object rfl fun text bytes rest spelled bytes_eq => ?_
  have filled := leaves_members (fun member inside => chooses (fills member inside)) record.blank
    spelled bytes_eq
  exact filled.refine record.finish

end Record

/-! ## Documents -/

/-- From a document a reader makes what it makes of the value, and leaves nothing but blanks. -/
theorem Makes.whole {reader : Reader α} {tree : Tree} {made : Option α}
    (makes : Makes reader tree made) {bytes : Bytes} (spelled : SpellsDocument tree bytes) :
    ∃ blank, IsBlank blank ∧ Leaves (reader bytes) made blank := by
  obtain ⟨spelling, blank, spelling_ok, blank_ok, bytes_eq⟩ := spelled
  have ends : EndsNumber blank := by simpa using blank_ok.endsNumber (avoids_nil goesOn)
  exact ⟨blank, blank_ok, makes spelling bytes blank spelling_ok ends bytes_eq⟩

/-- A document tells what its value tells, and is refused if that is refused in the end. -/
theorem document_refine {reader : Reader α} {tree : Tree} {content : α}
    (makes : Makes reader tree (some content)) {text : String}
    (spelled : SpellsDocument tree (Utf8.encode text.toList)) (change : α → Except Fault β) :
    document (reader.refine change) text = (change content).mapError Failure.here := by
  obtain ⟨blank, blank_ok, last, read_eq, last_eq⟩ := makes.whole spelled
  have nothing_left : space last.val = [] := by
    rw [last_eq, space, List.dropWhile_eq_nil_iff]
    exact blank_ok
  rw [document, Reader.refine]
  simp only [read_eq]
  cases change content with
  | error fault => rfl
  | ok changed => exact if_pos nothing_left

end SignIn.Json
