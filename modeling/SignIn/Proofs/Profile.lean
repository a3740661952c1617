import SignIn.Profile
import SignIn.Proofs.Except
import SignIn.Proofs.Identity

/-!
# Profiles

When the fields of a profile give an identity, and which one.
-/

namespace SignIn

theorem Identity.joinUrn_google (user : String) :
    joinUrn Profile.provider user = "urn:google:" ++ user := by
  have start_eq : "urn:" ++ Profile.provider ++ ":" = "urn:google:" := by decide
  rw [joinUrn, start_eq]

theorem Identity.nameable_google {user : String} (user_ne : user ≠ "") :
    Nameable Profile.provider user :=
  ⟨by decide, isProviderName_iff.1 (by decide), user_ne⟩

theorem Identity.namespaced_google {user : String} (user_ne : user ≠ "")
    (properties : List (String × String)) :
    namespaced Profile.provider user properties =
      .ok ⟨joinUrn Profile.provider user, .ofList properties, joinUrn_ne_empty _ _⟩ :=
  namespaced_eq_ok_iff.2 ⟨nameable_google user_ne, rfl, rfl⟩

namespace Profile

theorem textField_eq_some_iff {value : Json.Value} {text : String} :
    textField value = .ok (some text) ↔ value = .string text := by
  cases value <;> simp [textField]

theorem within_eq_ok_iff {α : Type} {step : Json.Step} {result : Except Json.Failure α}
    {content : α} : within step result = .ok content ↔ result = .ok content :=
  mapError_eq_ok_iff

/-- A profile is read field by field. -/
theorem read_eq_ok_iff {fields : Dictionary Json.Value} {profile : Profile} :
    read fields = .ok profile ↔
      member fields "displayName" textField = .ok profile.name ∧
        member fields "id" textField = .ok profile.id ∧
          member fields "image" image = .ok profile.picture := by
  obtain ⟨id, name, picture⟩ := profile
  unfold read
  cases member fields "displayName" textField with
  | error failure => simp
  | ok found_name =>
    cases member fields "id" textField with
    | error failure => simp
    | ok found_id =>
      cases member fields "image" image with
      | error failure => simp
      | ok found_picture =>
        simp only [Except.ok.injEq, mk.injEq]
        constructor
        · rintro ⟨rfl, rfl, rfl⟩
          exact ⟨rfl, rfl, rfl⟩
        · rintro ⟨rfl, rfl, rfl⟩
          exact ⟨rfl, rfl, rfl⟩

/-- The user's name at the provider is the text of the field `id`. -/
theorem id_eq_some_iff_of_read {fields : Dictionary Json.Value} {profile : Profile} {id : String}
    (read_eq : read fields = .ok profile) :
    profile.id = some id ↔ fields.get? "id" = some (.string id) := by
  have id_read := (read_eq_ok_iff.1 read_eq).2.1
  rw [member, within_eq_ok_iff] at id_read
  constructor
  · intro id_eq
    rw [id_eq, textField_eq_some_iff] at id_read
    cases found : fields.get? "id" with
    | none => simp [found] at id_read
    | some value => simpa [found] using id_read
  · intro found
    simpa [found, textField, eq_comm] using id_read

theorem identity_eq_ok_iff {profile : Profile} {identity : Identity} :
    profile.identity = .ok identity ↔
      ∃ id, profile.id = some id ∧ id ≠ "" ∧ identity.urn = Identity.joinUrn provider id ∧
        identity.properties = .ofList profile.properties := by
  unfold Profile.identity
  split
  · rename_i absent
    simp [absent]
  · rename_i empty
    simp [empty]
  · rename_i id id_ne id_eq
    have given_ne : id ≠ "" := fun empty => id_ne empty
    rw [Identity.namespaced_google given_ne]
    obtain ⟨urn, properties, urn_ne⟩ := identity
    simp only [mapError_ok, Except.ok.injEq, Identity.mk.injEq, id_eq, Option.some.injEq]
    constructor
    · rintro ⟨rfl, rfl⟩
      exact ⟨id, rfl, given_ne, rfl, rfl⟩
    · rintro ⟨_, rfl, -, rfl, rfl⟩
      exact ⟨rfl, rfl⟩

/-- Fields give an identity if they tell of no error and name the user. -/
theorem identityOf_eq_ok_iff {fields : Dictionary Json.Value} {identity : Identity} :
    identityOf fields = .ok identity ↔
      fields.get? "error" = none ∧ ∃ profile id, read fields = .ok profile ∧
        fields.get? "id" = some (.string id) ∧ id ≠ "" ∧
          identity.urn = Identity.joinUrn provider id ∧
            identity.properties = .ofList profile.properties := by
  unfold identityOf
  cases fields.get? "error" with
  | some error => simp
  | none =>
    cases read_eq : read fields with
    | error failure => simp
    | ok profile => simp [identity_eq_ok_iff, id_eq_some_iff_of_read read_eq]

end Profile

end SignIn
