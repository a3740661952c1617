import SignIn.Identity
import SignIn.Proofs.Text

/-!
# Identities

When an identity can be made for a user of a provider, and what it is called.  The name holds the
provider's name, which has no colon, and behind the next colon whatever the provider calls the user;
so both can be read off it.
-/

namespace SignIn.Identity

/-- A provider and a user from which a name can be made. -/
structure Nameable (provider user : String) : Prop where
  /-- The provider has a name. -/
  provider_ne : provider ≠ ""
  /-- The provider's name is a word without a colon. -/
  plain : ∀ char ∈ provider.toList, char ≠ ':' ∧ Text.isBlank char = false
  /-- The provider has a name for the user. -/
  user_ne : user ≠ ""

theorem isProviderName_iff {provider : String} :
    isProviderName provider = true ↔
      ∀ char ∈ provider.toList, char ≠ ':' ∧ Text.isBlank char = false := by
  simp [isProviderName]

theorem joinUrn_ne_empty (provider user : String) : joinUrn provider user ≠ "" := by
  intro empty
  have lengths := congrArg String.length empty
  simp [joinUrn] at lengths

theorem new_joinUrn (provider user : String) (properties : List (String × String)) :
    new (joinUrn provider user) properties =
      .ok ⟨joinUrn provider user, .ofList properties, joinUrn_ne_empty provider user⟩ := by
  rw [new, make, dif_neg (joinUrn_ne_empty provider user)]

/-- A name is made of every provider and user of which one can be made, and it joins both. -/
theorem namespaced_eq_ok_iff {provider user : String} {properties : List (String × String)}
    {identity : Identity} :
    namespaced provider user properties = .ok identity ↔
      Nameable provider user ∧ identity.urn = joinUrn provider user ∧
        identity.properties = .ofList properties := by
  have parts_iff : Nameable provider user ↔
      provider ≠ "" ∧ isProviderName provider = true ∧ user ≠ "" := by
    rw [isProviderName_iff]
    exact ⟨fun parts => ⟨parts.provider_ne, parts.plain, parts.user_ne⟩,
      fun ⟨provider_ne, plain, user_ne⟩ => ⟨provider_ne, plain, user_ne⟩⟩
  rw [parts_iff, namespaced]
  by_cases unnamed : provider = ""
  · simp [unnamed]
  · cases plain : isProviderName provider with
    | false => simp [unnamed]
    | true =>
      by_cases nobody : user = ""
      · simp [unnamed, nobody]
      · obtain ⟨urn, kept, urn_ne⟩ := identity
        simp [unnamed, nobody, new_joinUrn, eq_comm]

/-! ## Names read back -/

/-- The provider and the user in a name. -/
def splitUrn? (urn : String) : Option (String × String) :=
  (Text.splitOnce? ':' (urn.toList.drop 4)).map fun (provider, user) =>
    (String.ofList provider, String.ofList user)

theorem splitUrn?_joinUrn {provider : String} (no_colon : ':' ∉ provider.toList) (user : String) :
    splitUrn? (joinUrn provider user) = some (provider, user) := by
  have text_eq : (joinUrn provider user).toList.drop 4 =
      provider.toList ++ ':' :: user.toList := by
    simp [joinUrn]
  rw [splitUrn?, text_eq, Text.splitOnce?_of_not_mem no_colon]
  simp

theorem Nameable.no_colon {provider user : String} (parts : Nameable provider user) :
    ':' ∉ provider.toList := fun member => (parts.plain ':' member).1 rfl

/-- Different parts are never joined to the same name. -/
theorem Nameable.joinUrn_inj {provider user other_provider other : String}
    (parts : Nameable provider user) (other_parts : Nameable other_provider other)
    (same : joinUrn provider user = joinUrn other_provider other) :
    provider = other_provider ∧ user = other := by
  have read_back := splitUrn?_joinUrn parts.no_colon user
  rw [same, splitUrn?_joinUrn other_parts.no_colon] at read_back
  simpa [eq_comm] using read_back

end SignIn.Identity
