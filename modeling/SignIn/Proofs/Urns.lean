import SignIn.Proofs.Identity
import SignIn.Proofs.TokenAnswers

/-!
# Names of users

Whom a login finds is named after the provider and after the user whom the profile names.  So users
of different providers, and different users of one provider, have different names.
-/

namespace SignIn.Google

/-! ## Logins -/

/-- A login of a registration finds an identity. -/
def Finds (registration : Registration) (message : Message) (answers : List Answer)
    (identity : Identity) : Prop :=
  (((pass registration).enter message).play answers).result = .ok (some identity)

/-- The profile among the answers names the user. -/
def GivesId (answers : List Answer) (id : String) : Prop :=
  ∃ fields, GivesFields answers fields ∧ fields.get? "id" = some (.string id)

theorem GivesId.unique {answers : List Answer} {id other : String} (given : GivesId answers id)
    (again : GivesId answers other) : id = other := by
  obtain ⟨fields, fields_eq, id_eq⟩ := given
  obtain ⟨more, more_eq, other_eq⟩ := again
  rw [givesFields_iff] at fields_eq more_eq
  rw [fields_eq] at more_eq
  cases more_eq
  rw [id_eq] at other_eq
  cases other_eq
  rfl

/-- Whom a login finds is named after the user whom the profile names. -/
theorem Finds.named {registration : Registration} {message : Message} {answers : List Answer}
    {identity : Identity} (found : Finds registration message answers identity) :
    ∃ id, GivesId answers id ∧ id ≠ "" ∧
      identity.urn = Identity.joinUrn Profile.provider id := by
  rw [Finds, play_pass, map_eq_ok_iff] at found
  obtain ⟨given, result_eq, same⟩ := found
  cases same
  obtain ⟨-, fields, given_fields, identity_eq⟩ :=
    (result_iff registration message answers identity).1 result_eq
  obtain ⟨-, -, id, -, id_eq, id_ne, urn_eq, -⟩ := Profile.identityOf_eq_ok_iff.1 identity_eq
  exact ⟨id, ⟨fields, given_fields, id_eq⟩, id_ne, urn_eq⟩

/-- A name can be made exactly for a provider whose own name is a word without a colon and for a
user who is called anything; and from the names of two users it can be told whether the providers
and the users are the same.  So two logins find users of the same name exactly if their profiles
name the same user, and no user of another provider has such a name. -/
theorem names_never_collide :
    (∀ provider user properties,
      (∃ identity, Identity.namespaced provider user properties = .ok identity) ↔
        provider ≠ "" ∧ (∀ char ∈ provider.toList, char ≠ ':' ∧ Text.isBlank char = false) ∧
          user ≠ "") ∧
    (∀ provider user properties identity, ∀ other_provider other other_properties other_identity,
      Identity.namespaced provider user properties = .ok identity →
      Identity.namespaced other_provider other other_properties = .ok other_identity →
      identity.urn = other_identity.urn → provider = other_provider ∧ user = other) ∧
    (∀ registration message answers identity,
      ∀ other_registration other_message other_answers other_identity,
      Finds registration message answers identity →
      Finds other_registration other_message other_answers other_identity →
      ∃ id other_id, (∀ given, GivesId answers given ↔ given = id) ∧
        (∀ given, GivesId other_answers given ↔ given = other_id) ∧
        (identity.urn = other_identity.urn ↔ id = other_id)) ∧
    (∀ registration message answers identity provider user properties other,
      Finds registration message answers identity →
      Identity.namespaced provider user properties = .ok other → provider ≠ "google" →
      identity.urn ≠ other.urn) := by
  have told_apart {provider user other_provider other : String}
      {identity other_identity : Identity} (parts : Identity.Nameable provider user)
      (urn_eq : identity.urn = Identity.joinUrn provider user)
      (other_parts : Identity.Nameable other_provider other)
      (other_urn_eq : other_identity.urn = Identity.joinUrn other_provider other)
      (same : identity.urn = other_identity.urn) : provider = other_provider ∧ user = other := by
    rw [urn_eq, other_urn_eq] at same
    exact parts.joinUrn_inj other_parts same
  refine ⟨fun provider user properties => ?_, ?_, ?_, ?_⟩
  · constructor
    · rintro ⟨identity, named⟩
      obtain ⟨parts, -⟩ := Identity.namespaced_eq_ok_iff.1 named
      exact ⟨parts.provider_ne, parts.plain, parts.user_ne⟩
    · rintro ⟨provider_ne, plain, user_ne⟩
      exact ⟨⟨_, _, Identity.joinUrn_ne_empty _ _⟩,
        Identity.namespaced_eq_ok_iff.2 ⟨⟨provider_ne, plain, user_ne⟩, rfl, rfl⟩⟩
  · intro provider user properties identity other_provider other other_properties other_identity
      named other_named
    obtain ⟨parts, urn_eq, -⟩ := Identity.namespaced_eq_ok_iff.1 named
    obtain ⟨other_parts, other_urn_eq, -⟩ := Identity.namespaced_eq_ok_iff.1 other_named
    exact told_apart parts urn_eq other_parts other_urn_eq
  · intro registration message answers identity other_registration other_message other_answers
      other_identity found other_found
    obtain ⟨id, given, id_ne, urn_eq⟩ := found.named
    obtain ⟨other_id, other_given, other_ne, other_urn_eq⟩ := other_found.named
    refine ⟨id, other_id, fun again => ⟨fun named => named.unique given, ?_⟩,
      fun again => ⟨fun named => named.unique other_given, ?_⟩, ?_, ?_⟩
    · rintro rfl
      exact given
    · rintro rfl
      exact other_given
    · exact fun same => (told_apart (Identity.nameable_google id_ne) urn_eq
        (Identity.nameable_google other_ne) other_urn_eq same).2
    · rintro rfl
      rw [urn_eq, other_urn_eq]
  · intro registration message answers identity provider user properties other found named
      elsewhere same
    obtain ⟨id, -, id_ne, urn_eq⟩ := found.named
    obtain ⟨parts, other_urn_eq, -⟩ := Identity.namespaced_eq_ok_iff.1 named
    have told := told_apart (Identity.nameable_google id_ne) urn_eq parts other_urn_eq same
    exact elsewhere told.1.symm

/-- A user whose name at Google holds a colon is told from users of providers whose names would end
at another one. -/
theorem names_never_collide_colon :
    let profile := Utf8.encode "\x7b\"id\":\"me:1\"\x7d".toList
    let answers := [tokenAnswer ⟨"T1"⟩, ⟨none, .ok ⟨.http11, .ok, [], profile⟩⟩]
    (∀ identity, Identity.namespaced "google:me" "1" [] ≠ .ok identity) ∧
    ∃ identity other, Finds exampleRegistration exampleCallback answers identity ∧
      Identity.namespaced "goo" "gle:me:1" [] = .ok other ∧ identity.urn ≠ other.urn ∧
      (∀ id, GivesId answers id ↔ id = "me:1") := by
  intro profile answers
  let identity : Identity :=
    ⟨"urn:google:me:1", .ofList [("name", "unknown"), ("picture", "#")], by decide⟩
  have read_eq : (Json.object profile).map (fun read =>
      ((read.1.get? "id").bind Json.Value.text?, Profile.identityOf read.1)) =
        .ok (some "me:1", .ok identity) := by decide +kernel
  obtain ⟨⟨fields, last⟩, fields_eq, found⟩ := map_eq_ok_iff.1 read_eq
  obtain ⟨text_eq, identity_eq⟩ := Prod.mk.inj found
  obtain ⟨value, value_eq, told⟩ := Option.bind_eq_some_iff.1 text_eq
  have given : GivesFields answers fields := ⟨none, _, last, rfl, fields_eq⟩
  have named : GivesId answers "me:1" :=
    ⟨fields, given, value_eq.trans (congrArg some (Json.Value.text?_eq_some_iff.1 told))⟩
  have asked := length_sent_example (givesToken_tokenAnswer _ _ : GivesToken answers _)
  have found : Finds exampleRegistration exampleCallback answers identity := by
    rw [Finds, play_pass, map_eq_ok_iff]
    refine ⟨identity, (result_iff _ _ _ _).2 ⟨?_, fields, given, identity_eq⟩, rfl⟩
    rw [requests, List.length_map, asked]
  obtain ⟨named_iff, -, users, providers⟩ := names_never_collide
  obtain ⟨other, other_eq⟩ : ∃ other, Identity.namespaced "goo" "gle:me:1" [] = .ok other :=
    exists_of_isOk rfl
  obtain ⟨id, -, id_iff, -, -⟩ := users _ _ _ _ _ _ _ _ found found
  have id_eq : "me:1" = id := (id_iff "me:1").1 named
  refine ⟨fun refused refused_eq => ?_, identity, other, found, other_eq,
    providers _ _ _ _ _ _ _ _ found other_eq (by decide), id_eq ▸ id_iff⟩
  obtain ⟨-, plain, -⟩ := (named_iff "google:me" "1" []).1 ⟨refused, refused_eq⟩
  exact (plain ':' (by decide)).1 rfl

end SignIn.Google
