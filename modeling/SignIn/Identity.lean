import SignIn.Error
import SignIn.Json.Reader
import SignIn.Text.Blank

/-!
# Identities

Who someone is: a name that is never empty, and named properties.
-/

namespace SignIn

/-- Who someone is. -/
structure Identity where
  /-- The name. -/
  urn : String
  /-- The properties. -/
  properties : Dictionary String
  /-- A name is never empty. -/
  urn_ne_empty : urn ≠ ""
deriving DecidableEq

namespace Identity

/-- The identity of a name and properties. -/
def make (urn : String) (properties : Dictionary String) : Except IdentityError Identity :=
  if empty : urn = "" then .error .emptyUrn else .ok ⟨urn, properties, empty⟩

/-- The identity of a name and a list of properties, in which the last one of a key counts. -/
def new (urn : String) (properties : List (String × String)) : Except IdentityError Identity :=
  make urn (.ofList properties)

/-- Whether a provider's name can be told from what follows it. -/
def isProviderName (provider : String) : Bool :=
  !provider.toList.any fun char => char == ':' || Text.isBlank char

/-- The name of a user among all users of all providers. -/
def joinUrn (provider user : String) : String := "urn:" ++ provider ++ ":" ++ user

/-- The identity of a user of a provider. -/
def namespaced (provider user : String) (properties : List (String × String)) :
    Except IdentityError Identity :=
  if provider = "" then .error (.emptyPart "provider")
  else if isProviderName provider = false then .error (.provider provider)
  else if user = "" then .error (.emptyPart "id")
  else new (joinUrn provider user) properties

/-- The value of a property. -/
def property? (identity : Identity) (name : String) : Option String :=
  identity.properties.get? name

/-! ## As JSON -/

/-- An identity as a value. -/
def value (identity : Identity) : Json.Value :=
  .object [("urn", .string identity.urn),
    ("properties", Json.Value.ofDictionary identity.properties)]

/-- What has been read of an identity. -/
structure Draft where
  /-- The name. -/
  urn : Option String := none
  /-- The properties. -/
  properties : Option (Dictionary String) := none

/-- How an identity is written. -/
def record : Json.Record Draft Draft where
  title := "struct IdentityRepr"
  blank := {}
  fields := [
    { name := "urn", required := true
      filled := fun draft => draft.urn.isSome
      fill := fun draft => Json.text.map fun urn => { draft with urn := some urn } },
    { name := "properties", required := false
      filled := fun draft => draft.properties.isSome
      fill := fun draft => Json.texts.map fun properties =>
        { draft with properties := some properties } }]
  finish := fun draft => if draft.urn.isNone then .error (.missing "urn") else .ok draft

/-- The identity of a whole draft. -/
def ofDraft (draft : Draft) : Except Json.Fault Identity :=
  match make (draft.urn.getD "") (draft.properties.getD .empty) with
  | .ok identity => .ok identity
  | .error error => .error (.rejected error.message)

/-- Read an identity. -/
def reader : Json.Reader Identity := record.read.refine ofDraft

end Identity

/-- An error of an identity as a value. -/
def IdentityError.value : IdentityError → Json.Value
  | .emptyUrn => .string "EmptyUrn"
  | .emptyPart part => .object [("EmptyUrnPart", .object [("part", .string part)])]
  | .provider name => .object [("InvalidProvider", .object [("provider", .string name)])]

end SignIn
