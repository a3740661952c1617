import SignIn.Proofs.Json.Written
import SignIn.Proofs.MalformedBodies

/-!
# Normalization

The members of a profile decide alone what a login makes of it: an error in it counts before all
else, then the types of the fields, then whether the user is named.  Everything is said of the
members as they are written, of which the last one of a name counts.
-/

namespace SignIn

namespace Profile

/-! ## Fields as written -/

/-- A value that may stand where a text may. -/
def IsOptionalText (value : Json.Value) : Prop := value = .null ∨ ∃ text, value = .string text

/-- A value that may stand for an image: null, an object in which the address is a text if it is
there, or a list of one address at most. -/
def IsImage : Json.Value → Prop
  | .null | .array [] => True
  | .array [url] => IsOptionalText url
  | .object members => ∀ url, Json.lastOf "url" members = some url → IsOptionalText url
  | _ => False

/-- The address in an image. -/
def urlIn? : Json.Value → Option String
  | .array (url :: _) => url.text?
  | .object members => (Json.lastOf "url" members).bind Json.Value.text?
  | _ => none

/-- A field is there, but its type is wrong. -/
inductive IllTyped (members : List (String × Json.Value)) : String → Prop where
  | id {value : Json.Value} (found : Json.lastOf "id" members = some value)
      (wrong : ¬IsOptionalText value) : IllTyped members "id"
  | displayName {value : Json.Value} (found : Json.lastOf "displayName" members = some value)
      (wrong : ¬IsOptionalText value) : IllTyped members "displayName"
  | image {value : Json.Value} (found : Json.lastOf "image" members = some value)
      (wrong : ¬IsImage value) : IllTyped members "image"

/-- The text of a field, if there is one. -/
def textOf? (members : List (String × Json.Value)) (name : String) : Option String :=
  (Json.lastOf name members).bind Json.Value.text?

/-- What an error says: itself if it is a text, its message if it has one, and else its compact
text. -/
def told (error : Json.Value) : String :=
  match error with
  | .string text => text
  | .object members => (textOf? members "message").getD error.settled.render
  | other => other.settled.render

/-- What becomes of a profile. -/
structure Normal (members : List (String × Json.Value)) (result : Except Error Identity) :
    Prop where
  /-- An error counts whatever else there is. -/
  of_error : ∀ error, Json.lastOf "error" members = some error →
    result = .error (.badRequest
      ("could not retrieve id from google, possible cause: " ++ told error))
  /-- Without an error, the types of the fields count. -/
  ill_typed_iff : Json.lastOf "error" members = none →
    ((∃ failure, result = .error (.provider (.parse .profile failure))) ↔
      ∃ name, IllTyped members name)
  /-- The place of a failure is in a field of a wrong type. -/
  place : ∀ failure, result = .error (.provider (.parse .profile failure)) →
    ∃ name later, IllTyped members name ∧ failure.path = .member name :: later
  /-- With fields of the right types, the user has to be named. -/
  nameless_iff : Json.lastOf "error" members = none → (∀ name, ¬IllTyped members name) →
    (result = .error (.provider (.missingField .profile "id")) ↔
      Json.lastOf "id" members = none ∨ Json.lastOf "id" members = some .null ∨
        Json.lastOf "id" members = some (.string ""))
  /-- A user who is named has an identity. -/
  named : ∀ id, Json.lastOf "error" members = none → (∀ name, ¬IllTyped members name) →
    Json.lastOf "id" members = some (.string id) → id ≠ "" →
    ∃ identity, result = .ok identity ∧ identity.urn = "urn:google:" ++ id ∧
      identity.properties.entries =
        [("name", (textOf? members "displayName").getD "unknown"),
          ("picture", ((Json.lastOf "image" members).bind urlIn?).getD "#")]

/-! ## Errors -/

theorem lookUp?_settled (members : List (String × Json.Value)) (name : String) :
    Dictionary.lookUp? name (Json.settle members).entries =
      (Json.lastOf name members).map Json.Value.settled :=
  Json.get?_settle members name

theorem errorText_settled (error : Json.Value) : errorText error.settled = told error := by
  cases error with
  | null | bool | number | string | array => rfl
  | object members =>
    have message_eq := lookUp?_settled members "message"
    rw [Json.settle] at message_eq
    rw [Json.Value.settled, errorText, message_eq, told, textOf?]
    cases Json.lastOf "message" members with
    | none => rfl
    | some value => cases value <;> rfl

/-! ## Types -/

/-- A check gives a content if a condition holds, and fails otherwise. -/
def Checks {α : Type} (result : Except Json.Failure α) (Right : Prop) (content : α) : Prop :=
  (Right → result = .ok content) ∧ (¬Right → ∃ failure, result = .error failure)

theorem Checks.within {α : Type} {result : Except Json.Failure α} {Right : Prop} {content : α}
    (checks : Checks result Right content) (step : Json.Step) :
    Checks (within step result) Right content := by
  refine ⟨fun right => ?_, fun wrong => ?_⟩
  · exact within_eq_ok_iff.2 (checks.1 right)
  · obtain ⟨failure, failed⟩ := checks.2 wrong
    exact ⟨failure.inside step, mapError_eq_error_iff.2 ⟨failure, failed, rfl⟩⟩

theorem checks_textField (value : Json.Value) :
    Checks (textField value.settled) (IsOptionalText value) value.text? := by
  cases value with
  | null => exact ⟨fun _ => rfl, fun wrong => absurd (.inl rfl) wrong⟩
  | string text => exact ⟨fun _ => rfl, fun wrong => absurd (.inr ⟨text, rfl⟩) wrong⟩
  | bool | number | array | object =>
    refine ⟨fun right => ?_, fun _ => ⟨_, rfl⟩⟩
    rcases right with impossible | ⟨_, impossible⟩ <;> cases impossible

theorem checks_image (value : Json.Value) :
    Checks (image value.settled) (IsImage value) (urlIn? value) := by
  cases value with
  | null => exact ⟨fun _ => rfl, fun wrong => absurd trivial wrong⟩
  | bool | number | string => exact ⟨fun right => right.elim, fun _ => ⟨_, rfl⟩⟩
  | array items =>
    cases items with
    | nil => exact ⟨fun _ => rfl, fun wrong => absurd trivial wrong⟩
    | cons url others =>
      have checks := (checks_textField url).within (.element 0)
      cases others with
      | nil =>
        refine ⟨fun right => ?_, fun wrong => ?_⟩
        · change listedImage [url.settled] = _
          rw [listedImage, checks.1 right]
          rfl
        · obtain ⟨failure, failed⟩ := checks.2 wrong
          refine ⟨failure, ?_⟩
          change listedImage [url.settled] = _
          rw [listedImage, failed]
      | cons next more =>
        refine ⟨fun right => right.elim, fun _ => ?_⟩
        change ∃ failure, listedImage (url.settled :: next.settled :: _) = .error failure
        rw [listedImage]
        cases Profile.within (.element 0) (textField url.settled) <;> exact ⟨_, rfl⟩
  | object members =>
    have url_eq := lookUp?_settled members "url"
    rw [Json.settle] at url_eq
    rw [Json.Value.settled, image, url_eq, IsImage, urlIn?]
    cases Json.lastOf "url" members with
    | none => exact ⟨fun _ => rfl, fun wrong => absurd (by simp) wrong⟩
    | some url => simpa using (checks_textField url).within (.member "url")

/-- A field that is not there is read as null, which has every type. -/
theorem checks_member {α : Type} (members : List (String × Json.Value))
    {read : Json.Value → Except Json.Failure (Option α)} {Right : Json.Value → Prop}
    {content : Json.Value → Option α}
    (checks : ∀ value, Checks (read value.settled) (Right value) (content value))
    (right_null : Right .null) (content_null : content .null = none) (name : String) :
    Checks (member (Json.settle members) name read)
      (∀ value, Json.lastOf name members = some value → Right value)
      ((Json.lastOf name members).bind content) := by
  unfold member
  rw [Json.get?_settle]
  cases Json.lastOf name members with
  | none =>
    have null_ok := ((checks .null).within (.member name)).1 right_null
    refine ⟨fun _ => null_ok.trans (congrArg _ content_null), fun wrong => ?_⟩
    exact absurd (by simp) wrong
  | some value => simpa using (checks value).within (.member name)

section

variable {members : List (String × Json.Value)}

/-- A field has the right type and is read, or has not and there is a failure in it. -/
theorem member_settled {α : Type} {read : Json.Value → Except Json.Failure (Option α)}
    {Right : Json.Value → Prop} {content : Json.Value → Option α} {name : String}
    (checks : Checks (member (Json.settle members) name read)
      (∀ value, Json.lastOf name members = some value → Right value)
      ((Json.lastOf name members).bind content))
    (ill_typed : ∀ value, Json.lastOf name members = some value → ¬Right value →
      IllTyped members name) :
    ((∀ value, Json.lastOf name members = some value → Right value) ∧
      member (Json.settle members) name read = .ok ((Json.lastOf name members).bind content)) ∨
      ∃ failure later, IllTyped members name ∧ failure.path = .member name :: later ∧
        member (Json.settle members) name read = .error failure := by
  by_cases right : ∀ value, Json.lastOf name members = some value → Right value
  · exact .inl ⟨right, checks.1 right⟩
  · obtain ⟨failure, failed⟩ := checks.2 right
    obtain ⟨before, _, failure_eq⟩ := mapError_eq_error_iff.1 failed
    push Not at right
    obtain ⟨value, found, wrong⟩ := right
    refine .inr ⟨failure, before.path, ill_typed value found wrong, ?_, failed⟩
    rw [← failure_eq]
    rfl

/-- The fields of a profile, if they have the right types. -/
def ofMembers (members : List (String × Json.Value)) : Profile :=
  ⟨textOf? members "id", textOf? members "displayName", (Json.lastOf "image" members).bind urlIn?⟩

/-- Fields of the right types are read, and for others there is a failure in one of them. -/
theorem read_settled (members : List (String × Json.Value)) :
    ((∀ name, ¬IllTyped members name) ∧ read (Json.settle members) = .ok (ofMembers members)) ∨
      ∃ failure name later, IllTyped members name ∧ failure.path = .member name :: later ∧
        read (Json.settle members) = .error failure := by
  have text_checks := checks_member members checks_textField (.inl rfl) rfl
  have image_checks := checks_member members checks_image trivial rfl "image"
  rcases member_settled (text_checks "displayName") fun _ => .displayName with
    ⟨name_right, name_eq⟩ | ⟨failure, later, ill_typed, place, failed⟩
  case inr => exact .inr ⟨failure, _, later, ill_typed, place, by simp only [read, failed]⟩
  rcases member_settled (text_checks "id") fun _ => .id with
    ⟨id_right, id_eq⟩ | ⟨failure, later, ill_typed, place, failed⟩
  case inr => exact .inr ⟨failure, _, later, ill_typed, place, by simp only [read, name_eq, failed]⟩
  rcases member_settled image_checks fun _ => .image with
    ⟨image_right, image_eq⟩ | ⟨failure, later, ill_typed, place, failed⟩
  case inr =>
    exact .inr ⟨failure, _, later, ill_typed, place, by simp only [read, name_eq, id_eq, failed]⟩
  refine .inl ⟨fun name ill_typed => ?_, by simp only [read, name_eq, id_eq, image_eq]; rfl⟩
  cases ill_typed with
  | id found wrong => exact wrong (id_right _ found)
  | displayName found wrong => exact wrong (name_right _ found)
  | image found wrong => exact wrong (image_right _ found)

/-! ## The identity -/

/-- The two properties are listed in the order of their names. -/
theorem entries_properties (profile : Profile) :
    (Dictionary.ofList profile.properties).entries = profile.properties := by
  have name_before : "name" < "picture" := by decide
  have picture_after : ¬"picture" < "name" := by decide
  simp [properties, Dictionary.ofList, Dictionary.insert, Dictionary.alter,
    Dictionary.alterEntries, Dictionary.empty, name_before, picture_after]

/-- There is no identity for want of a name exactly if the name is not there or empty. -/
theorem identity_eq_missing_iff {profile : Profile} :
    profile.identity = .error (.provider (.missingField .profile "id")) ↔
      profile.id = none ∨ profile.id = some "" := by
  unfold identity
  split
  next absent => simp [absent]
  next empty => simp [empty]
  next id id_ne id_eq =>
    have given_ne : id ≠ "" := fun empty => id_ne empty
    rw [Identity.namespaced_google given_ne]
    simp [id_eq, given_ne]

theorem told_not_silent {error : Json.Value}
    (told_eq : Json.lastOf "error" members = some error)
    (silent : Json.lastOf "error" members = none) : False := by
  rw [told_eq] at silent
  cases silent

theorem Normal.of_told {error : Json.Value}
    (told_eq : Json.lastOf "error" members = some error) :
    Normal members (.error (.badRequest
      ("could not retrieve id from google, possible cause: " ++ told error))) where
  of_error := by
    intro other other_eq
    rw [told_eq, Option.some.injEq] at other_eq
    rw [other_eq]
  ill_typed_iff := fun silent => (told_not_silent told_eq silent).elim
  place := by
    intro failure failed
    cases failed
  nameless_iff := fun silent => (told_not_silent told_eq silent).elim
  named := fun _ silent => (told_not_silent told_eq silent).elim

theorem Normal.of_illTyped {failure : Json.Failure} {name : String} {later : List Json.Step}
    (silent : Json.lastOf "error" members = none) (ill_typed : IllTyped members name)
    (place : failure.path = .member name :: later) :
    Normal members (.error (.provider (.parse .profile failure))) where
  of_error := fun _ told_eq => (told_not_silent told_eq silent).elim
  ill_typed_iff := fun _ => iff_of_true ⟨failure, rfl⟩ ⟨name, ill_typed⟩
  place := by
    intro other other_eq
    cases other_eq
    exact ⟨name, later, ill_typed, place⟩
  nameless_iff := fun _ right => absurd ill_typed (right name)
  named := fun _ _ right => absurd ill_typed (right name)

/-- Where all types are right, the name of the user is not there, or null, or a text. -/
theorem lastOf_id_cases (right : ∀ name, ¬IllTyped members name) :
    Json.lastOf "id" members = none ∨ Json.lastOf "id" members = some .null ∨
      ∃ id, Json.lastOf "id" members = some (.string id) := by
  cases found : Json.lastOf "id" members with
  | none => exact .inl rfl
  | some value =>
    have value_ok : IsOptionalText value := by
      by_contra wrong
      exact right "id" (.id found wrong)
    rcases value_ok with rfl | ⟨id, rfl⟩
    · exact .inr (.inl rfl)
    · exact .inr (.inr ⟨id, rfl⟩)

theorem Normal.of_right (silent : Json.lastOf "error" members = none)
    (right : ∀ name, ¬IllTyped members name) : Normal members (ofMembers members).identity where
  of_error := fun _ told_eq => (told_not_silent told_eq silent).elim
  ill_typed_iff := by
    refine fun _ => iff_of_false ?_ (not_exists.2 right)
    rintro ⟨failure, failed⟩
    cases identity_error failed
  place := by
    intro failure failed
    cases identity_error failed
  nameless_iff := by
    intro _ _
    rw [identity_eq_missing_iff]
    change textOf? members "id" = none ∨ textOf? members "id" = some "" ↔ _
    rcases lastOf_id_cases right with found | found | ⟨id, found⟩ <;>
      simp [textOf?, found, Json.Value.text?]
  named := by
    intro id _ _ found id_ne
    have id_eq : (ofMembers members).id = some id := by
      change textOf? members "id" = some id
      simp [textOf?, found, Json.Value.text?]
    refine ⟨⟨Identity.joinUrn provider id, .ofList (ofMembers members).properties,
      Identity.joinUrn_ne_empty _ _⟩, ?_, Identity.joinUrn_google id, entries_properties _⟩
    exact identity_eq_ok_iff.2 ⟨id, id_eq, id_ne, rfl, rfl⟩

/-- A profile becomes what its members say. -/
theorem normal_identityOf (members : List (String × Json.Value)) :
    Normal members (identityOf (Json.settle members)) := by
  unfold identityOf
  rw [Json.get?_settle]
  cases told_eq : Json.lastOf "error" members with
  | some error =>
    simp only [Option.map_some, errorText_settled]
    exact .of_told told_eq
  | none =>
    simp only [Option.map_none]
    rcases read_settled members with
      ⟨right, read_eq⟩ | ⟨failure, name, later, ill_typed, place, read_eq⟩
    · rw [read_eq]
      exact .of_right told_eq right
    · rw [read_eq]
      exact .of_illTyped told_eq ill_typed place

end

end Profile

namespace Google

/-- The object in the second answer is turned into an identity, or refused, by its members as they
are written. -/
theorem profile_is_normalized {registration : Registration} {message : Message}
    {answers : List Answer} {metadata : Option Metadata} {response : Http.Response}
    {fields : Dictionary Json.Value} {rest : Json.Rest response.body}
    (answered : answers[1]? = some ⟨metadata, .ok response⟩)
    (asked : ((enter registration message).play answers).sent.length = 2)
    (read_eq : Json.object response.body = .ok (fields, rest)) :
    ∃ members, Json.writtenObject response.body = .ok (members, rest) ∧
      Profile.Normal members ((enter registration message).play answers).result := by
  obtain ⟨members, written_eq, settled_eq⟩ := Json.object_eq_ok_iff.1 read_eq
  have fields_eq : fieldsIn (secondReply answers) = .ok fields := by
    rw [fieldsIn_secondReply answered]
    exact Exchange.readBody_eq_ok_iff.2 ⟨rest, read_eq⟩
  refine ⟨members, written_eq, ?_⟩
  have way := course registration message answers
  generalize (enter registration message).play answers = run at way asked
  cases way with
  | noCode | notAsked | noToken | notFetched => cases asked
  | noFields _ _ _ _ failed =>
    rw [fields_eq] at failed
    cases failed
  | parsed _ _ _ _ given =>
    rw [fields_eq, Except.ok.injEq] at given
    rw [← given, ← settled_eq]
    exact Profile.normal_identityOf members

/-- Of two names for the user the last one counts; nothing else is said of the user. -/
theorem profile_is_normalized_twice :
    let profile := Utf8.encode "\x7b\"id\":1,\"id\":\"2\"\x7d".toList
    let run := (enter exampleRegistration exampleCallback).play
      [tokenAnswer ⟨"T1"⟩, ⟨none, .ok ⟨.http11, .ok, [], profile⟩⟩]
    run.sent.length = 2 ∧ ∃ identity, run.result = .ok identity ∧
      identity.urn = "urn:google:2" ∧
        identity.properties.entries = [("name", "unknown"), ("picture", "#")] := by
  intro profile run
  have read_eq : (Json.writtenObject profile).map (fun read => (Profile.textOf? read.1 "id",
      ["error", "displayName", "image"].filter fun name => (Json.lastOf name read.1).isSome)) =
        .ok (some "2", []) := by decide +kernel
  obtain ⟨⟨written, last⟩, written_eq, found⟩ := map_eq_ok_iff.1 read_eq
  obtain ⟨text_eq, others_eq⟩ := Prod.mk.inj found
  obtain ⟨value, value_eq, told⟩ := Option.bind_eq_some_iff.1 text_eq
  obtain rfl := Json.Value.text?_eq_some_iff.1 told
  obtain ⟨no_error, no_name, no_image⟩ : Json.lastOf "error" written = none ∧
      Json.lastOf "displayName" written = none ∧ Json.lastOf "image" written = none := by
    simpa using others_eq
  have asked : run.sent.length = 2 := length_sent_example (givesToken_tokenAnswer _ _)
  obtain ⟨members, given, normal⟩ :=
    profile_is_normalized rfl asked (Json.object_eq_ok_iff.2 ⟨_, written_eq, rfl⟩)
  rw [written_eq] at given
  cases given
  have well_typed : ∀ name, ¬Profile.IllTyped written name := by
    intro name ill_typed
    cases ill_typed with
    | id found wrong => exact wrong (.inr ⟨"2", Option.some.inj (found.symm.trans value_eq)⟩)
    | displayName found => cases no_name.symm.trans found
    | image found => cases no_image.symm.trans found
  obtain ⟨identity, result_eq, urn_eq, entries_eq⟩ :=
    normal.named "2" no_error well_typed value_eq (by decide)
  rw [Profile.textOf?, no_name, no_image] at entries_eq
  exact ⟨asked, identity, result_eq, urn_eq, entries_eq⟩

end Google
end SignIn
