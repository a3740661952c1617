import SignIn.Json.Reader
import SignIn.Proofs.Dictionary
import SignIn.Proofs.Except

/-!
# Values as written

An object may be written with several members of one name.  Here the values are read with all of
their members, in the order in which they are written; of the members of one name the last one
counts when such a value is settled, at every depth.
-/

namespace SignIn

namespace Json

variable {α β δ ε : Type}

/-! ## Settling -/

namespace Value

mutual

/-- A value in which of the members of one name only the last one is left. -/
def settled : Value → Value
  | .null => .null
  | .bool truth => .bool truth
  | .number numeral => .number numeral
  | .string text => .string text
  | .array items => .array (settledItems items)
  | .object members => .object (Dictionary.ofList (settledMembers members)).entries

/-- The items of an array, settled. -/
def settledItems : List Value → List Value
  | [] => []
  | item :: items => settled item :: settledItems items

/-- All members of an object, with settled values. -/
def settledMembers : List (String × Value) → List (String × Value)
  | [] => []
  | (name, value) :: members => (name, settled value) :: settledMembers members

end

theorem settledItems_eq (items : List Value) : settledItems items = items.map settled := by
  induction items with
  | nil => rfl
  | cons item items ih => rw [settledItems, ih, List.map_cons]

theorem settledMembers_eq (members : List (String × Value)) :
    settledMembers members = members.map fun member => (member.1, member.2.settled) := by
  induction members with
  | nil => rfl
  | cons member members ih => rw [settledMembers, ih, List.map_cons]

end Value

/-- The value of the last member of a name. -/
def lastOf (name : String) (members : List (String × Value)) : Option Value :=
  Dictionary.lookUp? name members.reverse

/-- The members of an object as a dictionary, settled. -/
def settle (members : List (String × Value)) : Dictionary Value :=
  .ofList (Value.settledMembers members)

/-- The last member of a name is the one that counts. -/
theorem get?_settle (members : List (String × Value)) (name : String) :
    (settle members).get? name = (lastOf name members).map Value.settled := by
  rw [settle, Value.settledMembers_eq, Dictionary.get?_ofList, ← List.map_reverse,
    Dictionary.lookUp?_map, lastOf]

theorem settle_append (members : List (String × Value)) (name : String) (value : Value) :
    settle (members ++ [(name, value)]) = (settle members).insert name value.settled := by
  simp only [settle, Value.settledMembers_eq, List.map_append, List.map_cons, List.map_nil,
    Dictionary.ofList, List.foldl_append, List.foldl_cons, List.foldl_nil]

/-! ## Readers -/

/-- The inside of an object with all of its members. -/
def listMembers (value : Reader Value) : Reader (List (String × Value)) :=
  members (fun gathered name => .ok (value.map fun content => gathered ++ [(name, content)])) true
    []

/-- Read any value up to a depth, with all members of its objects. -/
def written : Nat → Reader Value
  | 0 =>
    Form.read ⟨"any valid JSON value", some, some (.failing .malformed),
      some (.failing .malformed)⟩
  | depth + 1 =>
    Form.read ⟨"any valid JSON value", some,
      some (Reader.map (items (written depth) 0) .array),
      some ((listMembers (written depth)).map .object)⟩

/-- Read an object with all of its members. -/
def writtenObject : Reader (List (String × Value)) :=
  Form.read ⟨"a map", fun _ => none, none, some (listMembers (written (depthLimit - 1)))⟩

/-! ## Changes of what is read -/

/-- A result of a reader after a change of its content. -/
def mapRead {bytes : Bytes} (change : α → β) (result : Except Failure (α × Rest bytes)) :
    Except Failure (β × Rest bytes) :=
  result.map fun (content, rest) => (change content, rest)

theorem mapRead_ok {bytes : Bytes} (change : α → β) (content : α) (rest : Rest bytes) :
    mapRead change (.ok (content, rest)) = .ok (change content, rest) := rfl

theorem mapRead_mapRead {γ : Type} {bytes : Bytes} (first : α → β) (second : β → γ)
    (result : Except Failure (α × Rest bytes)) :
    mapRead second (mapRead first result) =
      mapRead (fun content => second (first content)) result := by
  cases result <;> rfl

namespace Reader

theorem map_apply (reader : Reader α) (change : α → β) (bytes : Bytes) :
    reader.map change bytes = mapRead change (reader bytes) := by
  unfold map refine mapRead
  cases reader bytes <;> rfl

theorem map_map {γ : Type} (reader : Reader α) (first : α → β) (second : β → γ) :
    (reader.map first).map second = reader.map fun content => second (first content) := by
  funext bytes
  rw [map_apply, map_apply, map_apply, mapRead_mapRead]

theorem inside_map (step : Step) (reader : Reader α) (change : α → β) :
    (reader.map change).inside step = (reader.inside step).map change := by
  funext bytes
  rw [map_apply, inside, map_apply, inside]
  cases reader bytes <;> rfl

end Reader

/-- Items can be changed one by one while they are read. -/
theorem items_map (item : Reader α) (change : α → β) (index : Nat) (bytes : Bytes) :
    items (item.map change) index bytes = mapRead (List.map change) (items item index bytes) := by
  induction size : bytes.length using Nat.strongRecOn generalizing bytes index with
  | ind length ih =>
    subst size
    rw [items, items]
    cases upcoming .array (index == 0) bytes with
    | error fault => rfl
    | ok found =>
      cases found with
      | closing rest => rfl
      | part byte rest =>
        simp only [Reader.inside_map, Reader.map_apply]
        cases item.inside (.element index) (byte :: rest.val) with
        | error failure => rfl
        | ok read =>
          obtain ⟨content, after⟩ := read
          have shorter : after.val.length < bytes.length :=
            Nat.lt_of_le_of_lt after.uncons.within rest.shorter
          simp only [mapRead_ok, ih _ shorter (index + 1) after.val rfl]
          cases items item (index + 1) after.val <;> rfl

/-- What is gathered of members can be seen in another way while they are read. -/
theorem members_map {take : δ → String → Except Fault (Reader δ)}
    {further : ε → String → Except Fault (Reader ε)} {view : δ → ε}
    (viewed : ∀ gathered name,
      further (view gathered) name = (take gathered name).map fun reader => reader.map view)
    (first : Bool) (gathered : δ) (bytes : Bytes) :
    members further first (view gathered) bytes =
      mapRead view (members take first gathered bytes) := by
  induction size : bytes.length using Nat.strongRecOn generalizing bytes first gathered with
  | ind length ih =>
    subst size
    rw [members, members]
    cases upcoming .object first bytes with
    | error fault => rfl
    | ok found =>
      cases found with
      | closing rest => rfl
      | part byte rest =>
        simp only [viewed]
        cases memberName byte rest.val with
        | error fault => rfl
        | ok named =>
          obtain ⟨name, afterName⟩ := named
          dsimp only
          cases take gathered name with
          | error fault => rfl
          | ok reader =>
            simp only [Except.map]
            cases colon afterName.val with
            | error fault => rfl
            | ok afterColon =>
              simp only [Reader.inside_map, Reader.map_apply]
              cases reader.inside (.member name) afterColon.val with
              | error failure => rfl
              | ok read =>
                obtain ⟨more, after⟩ := read
                have shorter : after.val.length < bytes.length :=
                  Nat.lt_trans after.shorter (Nat.lt_trans afterColon.shorter
                    (Nat.lt_trans afterName.shorter rest.shorter))
                simp only [mapRead_ok, ih _ shorter false more after.val rfl]
                cases members take false more after.val <;> rfl

/-- A form can be changed throughout while a value is read. -/
theorem Form.read_map {form : Form α} {further : Form β} {change : α → β}
    (expected_eq : further.expected = form.expected)
    (scalar_eq : ∀ byte bytes value last, Json.scalar byte bytes = .ok (value, last) →
      further.scalar value = (form.scalar value).map change)
    (inner_eq : ∀ frame,
      further.inner frame = (form.inner frame).map fun reader => reader.map change) :
    further.read = form.read.map change := by
  funext bytes
  rw [Reader.map_apply, Form.read, Form.read]
  cases next? bytes with
  | none => rfl
  | some found =>
    obtain ⟨byte, rest⟩ := found
    simp only [inner_eq, expected_eq]
    cases opened? byte with
    | some frame =>
      dsimp only
      cases form.inner frame with
      | none => rfl
      | some reader =>
        simp only [Option.map_some, Reader.map_apply]
        cases reader rest.val <;> rfl
    | none =>
      dsimp only
      cases read_eq : Json.scalar byte rest.val with
      | error fault => rfl
      | ok read =>
        obtain ⟨value, last⟩ := read
        simp only [scalar_eq _ _ _ _ read_eq]
        cases form.scalar value <;> rfl

/-! ## Settled values -/

theorem settled_scalar {byte : UInt8} {bytes : Bytes} {value : Value} {last : Upto bytes}
    (read_eq : scalar byte bytes = .ok (value, last)) : value.settled = value := by
  unfold scalar keyword at read_eq
  split at read_eq
  case h_6 =>
    split at read_eq
    · obtain ⟨_, _, pair_eq⟩ := map_eq_ok_iff.1 read_eq
      cases pair_eq
      rfl
    · cases read_eq
  all_goals
    obtain ⟨_, _, pair_eq⟩ := map_eq_ok_iff.1 read_eq
    cases pair_eq
    rfl

theorem items_settled {value plain : Reader Value} (settled_eq : value = plain.map Value.settled) :
    Reader.map (items value 0) .array =
      (Reader.map (items plain 0) .array).map Value.settled := by
  have array_settled : (fun contents => (Value.array contents).settled) =
      fun contents => .array (contents.map Value.settled) :=
    funext fun contents => congrArg Value.array (Value.settledItems_eq contents)
  funext bytes
  calc Reader.map (items value 0) .array bytes
    _ = mapRead .array (items value 0 bytes) := Reader.map_apply _ _ _
    _ = mapRead .array (mapRead (List.map Value.settled) (items plain 0 bytes)) := by
        rw [settled_eq, items_map]
    _ = mapRead Value.settled (mapRead .array (items plain 0 bytes)) := by
        rw [mapRead_mapRead, mapRead_mapRead, array_settled]
    _ = mapRead Value.settled (Reader.map (items plain 0) .array bytes) :=
        congrArg _ (Reader.map_apply _ _ _).symm
    _ = (Reader.map (items plain 0) .array).map Value.settled bytes :=
        (Reader.map_apply _ _ _).symm

theorem valueMembers_settled {value plain : Reader Value}
    (settled_eq : value = plain.map Value.settled) :
    valueMembers value = (listMembers plain).map settle := by
  funext bytes
  refine Eq.trans ?_ (Reader.map_apply (listMembers plain) settle bytes).symm
  refine @members_map _ _ _ _ settle (fun gathered name => ?_) true [] bytes
  simp only [Except.map, settled_eq, Reader.map_map, settle_append]

/-- Any value is read as it is written, and then settled. -/
theorem value_eq_written (depth : Nat) : value depth = (written depth).map Value.settled := by
  have scalar_eq : ∀ byte bytes value last, scalar byte bytes = .ok (value, last) →
      some value = (some value).map Value.settled := fun _ _ value _ read_eq => by
    rw [Option.map_some, settled_scalar read_eq]
  induction depth with
  | zero =>
    refine Form.read_map rfl scalar_eq fun frame => ?_
    cases frame <;> rfl
  | succ depth ih =>
    refine Form.read_map rfl scalar_eq fun frame => ?_
    cases frame with
    | array => exact congrArg some (items_settled ih)
    | object =>
      refine congrArg some ?_
      simp only [valueMembers_settled ih, Reader.map_map]
      rfl

/-- An object is read as it is written, and then settled. -/
theorem object_eq_written : object = writtenObject.map settle := by
  refine Form.read_map rfl (fun _ _ _ _ _ => rfl) fun frame => ?_
  cases frame with
  | array => rfl
  | object => exact congrArg some (valueMembers_settled (value_eq_written _))

theorem object_eq_ok_iff {bytes : Bytes} {fields : Dictionary Value} {rest : Rest bytes} :
    object bytes = .ok (fields, rest) ↔
      ∃ members, writtenObject bytes = .ok (members, rest) ∧ settle members = fields := by
  rw [object_eq_written, Reader.map_apply, mapRead, map_eq_ok_iff]
  constructor
  · rintro ⟨⟨members, last⟩, written_eq, pair_eq⟩
    cases pair_eq
    exact ⟨members, written_eq, rfl⟩
  · rintro ⟨members, written_eq, rfl⟩
    exact ⟨(members, rest), written_eq, rfl⟩

end Json
end SignIn
