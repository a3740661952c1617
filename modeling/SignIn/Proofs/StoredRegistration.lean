import SignIn.Proofs.Json.Members
import SignIn.Proofs.Json.Rendering
import SignIn.Provider.Registration

/-!
# Registrations as texts

A registration can be made of its parts or be read from a text that tells them, in any order and
among members that are not known.  Both ways come to the same registration, or fail for the same
reason; and a registration that has been written down is read back as it was.
-/

namespace SignIn

open Json (Tree)

/-! ## Places -/

namespace Endpoints

/-- The places are what their own texts spell. -/
structure Stable (endpoints : Endpoints) : Prop where
  /-- The login is read back. -/
  oauth : Url.ofString endpoints.oauth.text = .ok endpoints.oauth
  /-- The place of the profiles is read back. -/
  api : Url.ofString endpoints.api.text = .ok endpoints.api

theorem google_stable : google.Stable := ⟨by decide +kernel, by decide +kernel⟩

/-- The members of an object tell the places, in any order and among members of other names. -/
def Tells (endpoints : Endpoints) (members : List (String × Tree)) : Prop :=
  ∃ unknown, members.Perm ([("oauth", .string endpoints.oauth.text),
      ("api", .string endpoints.api.text)] ++ unknown) ∧
    ∀ member ∈ unknown, member.1 ∉ ["oauth", "api"]

/-- The URL that a value tells. -/
def urlOf? (tree : Tree) : Option Url := tree.text?.bind fun text => (urlOf text).toOption

theorem makes_url (tree : Tree) : Json.Makes urlReader tree (urlOf? tree) :=
  (Json.makes_textForm "a string representing an URL" tree).refine urlOf

/-- How the value of a member of the places changes a draft. -/
def filling (name : String) (tree : Tree) : Option (Draft → Draft) :=
  if name = "oauth" then (urlOf? tree).map fun url draft => { draft with oauth := some url }
  else (urlOf? tree).map fun url draft => { draft with api := some url }

theorem fills (tree : Tree) :
    ∀ field ∈ record.fields, Json.Fills field tree (filling field.name tree) := by
  simp only [record, List.forall_mem_cons]
  exact ⟨(makes_url tree).fills fun _ => rfl, (makes_url tree).fills fun _ => rfl,
    List.forall_mem_nil _⟩

theorem independent : record.Independent filling where
  fills := by simp [record, filling]
  keeps := by simp [record, filling]
  comm := by simp [record, filling]

/-- The places that members tell, one after another. -/
def ofMembers? (members : List (String × Tree)) : Option Endpoints :=
  (members.foldlM (record.step filling) record.blank).bind fun draft => (ofDraft draft).toOption

theorem makes_object (members : List (String × Tree)) :
    Json.Makes reader (.object members) (ofMembers? members) :=
  Json.Record.makes fun member _ field inside _ => fills member.2 field inside

/-- Places are read from any members that tell them. -/
theorem Stable.ofMembers? {endpoints : Endpoints} (stable : endpoints.Stable)
    {members : List (String × Tree)} (told : endpoints.Tells members) :
    ofMembers? members = some endpoints := by
  obtain ⟨unknown, perm, foreign⟩ := told
  have no_field : ∀ member ∈ unknown, record.Foreign member.1 := fun member inside =>
    Json.Record.foreign_iff.2 (foreign member inside)
  rw [Endpoints.ofMembers?, independent.foldlM_eq perm no_field]
  simp [Json.Record.step, record, filling, urlOf?, urlOf, Tree.text?, stable.oauth, stable.api,
    ofDraft, Except.toOption]

end Endpoints

namespace Registration

/-! ## Members -/

/-- What is told of the places of a registration: nothing, that there are none of its own, or the
places themselves. -/
inductive TellsPlaces : Option Endpoints → List (String × Tree) → Prop where
  /-- There is no such member. -/
  | omitted : TellsPlaces none []
  /-- The member is null. -/
  | null : TellsPlaces none [("endpoints", .null)]
  /-- The member tells the places. -/
  | given {endpoints : Endpoints} {members : List (String × Tree)}
      (told : endpoints.Tells members) :
      TellsPlaces (some endpoints) [("endpoints", .object members)]

/-- The members of an object tell the parts of a registration, in any order and among members of
other names. -/
def Tells (clientId clientSecret redirectUri : String) (endpoints : Option Endpoints)
    (members : List (String × Tree)) : Prop :=
  ∃ place unknown, TellsPlaces endpoints place ∧
    members.Perm ([("client_id", .string clientId), ("client_secret", .string clientSecret),
      ("redirect_uri", .string redirectUri)] ++ place ++ unknown) ∧
    ∀ member ∈ unknown,
      member.1 ∉ ["client_id", "client_secret", "redirect_uri", "endpoints"]

/-! ## Reading -/

/-- The places that a value tells, if it tells any. -/
def placesOf? : Tree → Option (Option Endpoints)
  | .null => some none
  | .object members => (Endpoints.ofMembers? members).map some
  | _ => none

theorem makes_places_null :
    Json.Makes (Json.nullable Endpoints.reader) .null (placesOf? .null) :=
  Json.makes_nullable_null Endpoints.reader

theorem makes_places_object (members : List (String × Tree)) :
    Json.Makes (Json.nullable Endpoints.reader) (.object members) (placesOf? (.object members)) :=
  (Endpoints.makes_object members).nullable nofun

/-- How the value of a member of a registration changes a draft. -/
def filling (name : String) (tree : Tree) : Option (Draft → Draft) :=
  if name = "client_id" then
    tree.text?.map fun text draft => { draft with clientId := some text }
  else if name = "client_secret" then
    (tree.text?.map Secret.mk).map fun secret draft => { draft with clientSecret := some secret }
  else if name = "redirect_uri" then
    tree.text?.map fun text draft => { draft with redirectUri := some text }
  else (placesOf? tree).map fun endpoints draft => { draft with endpoints := some endpoints }

theorem independent : record.Independent filling where
  fills := by simp [record, filling]
  keeps := by simp [record, filling]
  comm := by simp [record, filling]

theorem TellsPlaces.makes {endpoints : Option Endpoints} {place : List (String × Tree)}
    (told : TellsPlaces endpoints place) : ∀ member ∈ place,
      Json.Makes (Json.nullable Endpoints.reader) member.2 (placesOf? member.2) := by
  cases told with
  | omitted => exact List.forall_mem_nil _
  | null => exact List.forall_mem_singleton.2 makes_places_null
  | given _ => exact List.forall_mem_singleton.2 (makes_places_object _)

/-- Each member of a registration fills its own field. -/
theorem Tells.fills {clientId clientSecret redirectUri : String} {endpoints : Option Endpoints}
    {members : List (String × Tree)}
    (told : Tells clientId clientSecret redirectUri endpoints members) :
    ∀ member ∈ members, ∀ field ∈ record.fields, field.name = member.1 →
      Json.Fills field member.2 (filling field.name member.2) := by
  obtain ⟨place, unknown, place_told, perm, foreign⟩ := told
  intro member inside
  -- What comes of places is known for the values that tell them, but not for any value.
  have places_made : member.1 = "endpoints" →
      Json.Makes (Json.nullable Endpoints.reader) member.2 (placesOf? member.2) := by
    intro name_eq
    have found := perm.mem_iff.1 inside
    simp only [List.cons_append, List.nil_append, List.mem_cons, List.mem_append] at found
    rcases found with rfl | rfl | rfl | found | found
    · simp at name_eq
    · simp at name_eq
    · simp at name_eq
    · exact place_told.makes member found
    · exact absurd (by simp [name_eq]) (foreign member found)
  simp only [record, List.forall_mem_cons]
  exact ⟨fun _ => (Json.makes_text _).fills fun _ => rfl,
    fun _ => ((Json.makes_text _).map Secret.mk).fills fun _ => rfl,
    fun _ => (Json.makes_text _).fills fun _ => rfl,
    fun name_eq => (places_made name_eq.symm).fills fun _ => rfl, List.forall_mem_nil _⟩

/-- The parts fill a draft, in whatever order they are told. -/
theorem Tells.draft {clientId clientSecret redirectUri : String} {endpoints : Option Endpoints}
    {members : List (String × Tree)}
    (told : Tells clientId clientSecret redirectUri endpoints members)
    (stable : ∀ places ∈ endpoints, places.Stable) :
    ∃ place, place.getD none = endpoints ∧
      members.foldlM (record.step filling) record.blank =
        some ⟨some clientId, some ⟨clientSecret⟩, some redirectUri, place⟩ := by
  obtain ⟨place, unknown, place_told, perm, foreign⟩ := told
  have no_field : ∀ member ∈ unknown, record.Foreign member.1 := fun member inside =>
    Json.Record.foreign_iff.2 (foreign member inside)
  rw [independent.foldlM_eq perm no_field]
  cases place_told with
  | omitted =>
    exact ⟨none, rfl, by simp [Json.Record.step, record, filling, Tree.text?]⟩
  | null =>
    exact ⟨some none, rfl, by simp [Json.Record.step, record, filling, Tree.text?, placesOf?]⟩
  | given told =>
    have made := (stable _ rfl).ofMembers? told
    exact ⟨some (some _), rfl,
      by simp [Json.Record.step, record, filling, Tree.text?, placesOf?, made]⟩

/-! ## Making -/

theorem isUrl_iff {text : String} : isUrl text = true ↔ ∃ url, Url.ofString text = .ok url := by
  rw [isUrl]
  cases Url.ofString text with
  | error error => simp [Except.toOption]
  | ok url => simp [Except.toOption]

theorem make_eq_ok_iff {clientId : String} {clientSecret : Secret} {redirectUri : String}
    {endpoints : Endpoints} {registration : Registration} :
    make clientId clientSecret redirectUri endpoints = .ok registration ↔
      registration.clientId = clientId ∧ registration.clientSecret = clientSecret ∧
        registration.redirectUri = redirectUri ∧ registration.endpoints = endpoints := by
  obtain ⟨id, secret, redirect, places, named, url_ok⟩ := registration
  constructor
  · intro made
    unfold make at made
    split at made
    · cases made
    · split at made
      · cases made
      · cases made
        exact ⟨rfl, rfl, rfl, rfl⟩
  · rintro ⟨rfl, rfl, rfl, rfl⟩
    obtain ⟨url, read⟩ := isUrl_iff.1 url_ok
    unfold make
    rw [dif_neg named]
    split
    next fault failed => exact absurd (failed.symm.trans read) (by simp)
    next => rfl

/-- The client's name is looked at before the address. -/
theorem make_eq_error_iff {clientId : String} {clientSecret : Secret} {redirectUri : String}
    {endpoints : Endpoints} {error : ConfigError} :
    make clientId clientSecret redirectUri endpoints = .error error ↔
      clientId = "" ∧ error = .emptyClientId ∨
        clientId ≠ "" ∧ ∃ fault, Url.ofString redirectUri = .error fault ∧
          error = .redirect fault := by
  unfold make
  by_cases unnamed : clientId = ""
  · simp [unnamed, eq_comm]
  · rw [dif_neg unnamed]
    split
    next fault read => simp [unnamed, read, eq_comm (a := error)]
    next read => simp [unnamed, read]

/-- Where the provider is found does not matter to whether there is a registration. -/
theorem make_elsewhere {clientId : String} {clientSecret : Secret} {redirectUri : String}
    {endpoints : Endpoints} {error : ConfigError}
    (failed : make clientId clientSecret redirectUri endpoints = .error error)
    (others : Endpoints) : make clientId clientSecret redirectUri others = .error error :=
  make_eq_error_iff.2 (make_eq_error_iff.1 failed)

/-- A registration of given parts at given places is one at Google that is moved there. -/
theorem make_moved {clientId clientSecret redirectUri : String} {registration : Registration}
    (made : new clientId clientSecret redirectUri = .ok registration)
    (endpoints : Option Endpoints) :
    make clientId ⟨clientSecret⟩ redirectUri (endpoints.getD .google) =
      .ok ((endpoints.map registration.withEndpoints).getD registration) := by
  obtain ⟨id_eq, secret_eq, uri_eq, places_eq⟩ := make_eq_ok_iff.1 made
  cases endpoints with
  | none => exact made
  | some places => exact make_eq_ok_iff.2 ⟨id_eq, secret_eq, uri_eq, rfl⟩

/-! ## Texts -/

/-- A registration is read from its parts exactly as it is made of them. -/
theorem document_parts {clientId clientSecret redirectUri : String}
    {endpoints : Option Endpoints} {members : List (String × Tree)}
    (told : Tells clientId clientSecret redirectUri endpoints members)
    (stable : ∀ places ∈ endpoints, places.Stable) {text : String}
    (spelled : Json.SpellsDocument (.object members) (Utf8.encode text.toList)) :
    Json.document reader text =
      (make clientId ⟨clientSecret⟩ redirectUri (endpoints.getD .google)).mapError fun error =>
        .here (.rejected error.message) := by
  obtain ⟨place, place_eq, filled⟩ := told.draft stable
  have whole : record.finish ⟨some clientId, some ⟨clientSecret⟩, some redirectUri, place⟩ =
      .ok ⟨some clientId, some ⟨clientSecret⟩, some redirectUri, place⟩ := rfl
  have made := Json.Record.makes told.fills
  rw [filled, Option.bind_some, whole] at made
  rw [reader, Json.document_refine made spelled, ofDraft, place_eq]
  simp only [Option.getD_some]
  cases make clientId ⟨clientSecret⟩ redirectUri (endpoints.getD .google) with
  | error error => rfl
  | ok registration => rfl

/-- What is written of a registration tells its parts. -/
theorem spells_value (registration : Registration) :
    ∃ members, Tells registration.clientId registration.clientSecret.exposed
        registration.redirectUri (some registration.endpoints) members ∧
      Json.SpellsDocument (.object members) (Utf8.encode registration.value.render.toList) := by
  have places_told : registration.endpoints.Tells
      [("oauth", .string registration.endpoints.oauth.text),
        ("api", .string registration.endpoints.api.text)] :=
    ⟨[], .refl _, List.forall_mem_nil _⟩
  have places_written : Json.TellsMember ("endpoints", registration.endpoints.value)
      ("endpoints", .object [("oauth", .string registration.endpoints.oauth.text),
        ("api", .string registration.endpoints.api.text)]) :=
    ⟨rfl, Json.spells_object
      (.cons (Json.tells_string _ _) (.cons (Json.tells_string _ _) .nil))⟩
  exact ⟨_, ⟨_, [], .given places_told, .refl _, List.forall_mem_nil _⟩,
    (Json.spells_object (.cons (Json.tells_string _ _) (.cons (Json.tells_string _ _)
      (.cons (Json.tells_string _ _) (.cons places_written .nil))))).document⟩

/-- A registration is read back from what has been written of it. -/
theorem document_render {registration : Registration}
    (stable : registration.endpoints.Stable) :
    Json.document reader registration.value.render = .ok registration := by
  obtain ⟨members, told, spelled⟩ := spells_value registration
  have places_stable : ∀ places ∈ some registration.endpoints, places.Stable := by
    rintro places ⟨⟩
    exact stable
  rw [document_parts told places_stable spelled, Option.getD_some,
    make_eq_ok_iff.2 ⟨rfl, rfl, rfl, rfl⟩, mapError_ok]

/-! ## Either way -/

/-- The ways in which a registration comes about. -/
inductive Reached : Registration → Prop where
  /-- It is made of its parts. -/
  | made {clientId clientSecret redirectUri : String} {registration : Registration}
      (made : new clientId clientSecret redirectUri = .ok registration) : Reached registration
  /-- It is moved to other places. -/
  | moved {registration : Registration} (reached : Reached registration) (endpoints : Endpoints) :
      Reached (registration.withEndpoints endpoints)
  /-- It is read from a text. -/
  | read {text : String} {registration : Registration}
      (read : Json.document reader text = .ok registration) : Reached registration

/-- Every registration comes about by being made at Google and moved to its places. -/
theorem reached (registration : Registration) : Reached registration := by
  have made : new registration.clientId registration.clientSecret.exposed
      registration.redirectUri = .ok (registration.withEndpoints .google) :=
    make_eq_ok_iff.2 ⟨rfl, rfl, rfl, rfl⟩
  exact .moved (.made made) registration.endpoints

/-- In whatever order its parts are told, and among whatever other members, a registration is read
exactly if it can be made of the parts, and then it has all of them; if it cannot be made, reading
tells why, and the name is looked at before the address.  What is written of a registration is read
back as that registration.  Every registration has a name and an address that is a URL. -/
theorem read_as_made :
    (∀ clientId clientSecret redirectUri endpoints members (text : String),
      (∀ places ∈ endpoints, places.Stable) →
      Tells clientId clientSecret redirectUri endpoints members →
      Json.SpellsDocument (.object members) (Utf8.encode text.toList) →
        (∀ error, new clientId clientSecret redirectUri = .error error →
          Json.document reader text = .error (.here (.rejected error.message))) ∧
        ∀ registration, new clientId clientSecret redirectUri = .ok registration →
          Json.document reader text =
              .ok ((endpoints.map registration.withEndpoints).getD registration) ∧
            registration.clientId = clientId ∧ registration.clientSecret.exposed = clientSecret ∧
            registration.redirectUri = redirectUri ∧ registration.endpoints = .google) ∧
    (∀ clientId clientSecret redirectUri error,
      new clientId clientSecret redirectUri = .error error ↔
        clientId = "" ∧ error = .emptyClientId ∨
          clientId ≠ "" ∧ ∃ fault, Url.ofString redirectUri = .error fault ∧
            error = .redirect fault) ∧
    Endpoints.google.Stable ∧
    ∀ registration, Reached registration →
      (registration.endpoints.Stable →
        Json.document reader registration.value.render = .ok registration) ∧
      registration.clientId ≠ "" ∧ ∃ url, Url.ofString registration.redirectUri = .ok url := by
  refine ⟨?_, fun _ _ _ _ => make_eq_error_iff, Endpoints.google_stable,
    fun registration _ => ⟨document_render, registration.clientId_ne_empty,
      isUrl_iff.1 registration.redirectUri_isUrl⟩⟩
  intro clientId clientSecret redirectUri endpoints members text stable told spelled
  rw [document_parts told stable spelled]
  constructor
  · intro error failed
    rw [make_elsewhere failed, mapError_error]
  · intro registration made
    obtain ⟨id_eq, secret_eq, uri_eq, places_eq⟩ := make_eq_ok_iff.1 made
    exact ⟨by rw [make_moved made, mapError_ok], id_eq, congrArg Secret.exposed secret_eq, uri_eq,
      places_eq⟩

/-- The parts are told from the last to the first, behind a member that is not known; the name is
found to be empty before the address is looked at. -/
theorem read_as_made_backwards :
    (∃ registration, new "app" "" "https://a.example/cb" = .ok registration ∧
      Json.document reader
        ("\x7b\"extra\":null,\"endpoints\":\x7b\"api\":\"https://www.googleapis.com/\"," ++
          "\"oauth\":\"https://accounts.google.com/\"\x7d," ++
          "\"redirect_uri\":\"https://a.example/cb\",\"client_secret\":\"\"," ++
          "\"client_id\":\"app\"\x7d") = .ok (registration.withEndpoints .google) ∧
      Json.document reader registration.value.render = .ok registration) ∧
    Json.document reader
        ("\x7b\"extra\":null,\"endpoints\":\x7b\"api\":\"https://www.googleapis.com/\"," ++
          "\"oauth\":\"https://accounts.google.com/\"\x7d," ++
          "\"redirect_uri\":\"nowhere\",\"client_secret\":\"\",\"client_id\":\"\"\x7d") =
      .error (.here (.rejected ConfigError.emptyClientId.message)) := by
  obtain ⟨either, errors, google_stable, later⟩ := read_as_made
  have stable : ∀ places ∈ some Endpoints.google, places.Stable := by
    rintro places ⟨⟩
    exact google_stable
  have places_told : Endpoints.google.Tells [("api", .string Endpoints.google.api.text),
      ("oauth", .string Endpoints.google.oauth.text)] :=
    ⟨[], .swap _ _ _, List.forall_mem_nil _⟩
  have places_written : Json.TellsMember ("endpoints", .object _) ("endpoints", .object _) :=
    ⟨rfl, Json.spells_object (.cons (Json.tells_string "api" Endpoints.google.api.text)
      (.cons (Json.tells_string "oauth" Endpoints.google.oauth.text) .nil))⟩
  have extra_written : Json.TellsMember ("extra", .null) ("extra", .null) :=
    ⟨rfl, .null (List.forall_mem_nil _)⟩
  have read {clientId redirectUri text : String} (text_eq : (Json.Value.object
      [("extra", .null), ("endpoints", .object [("api", .string Endpoints.google.api.text),
        ("oauth", .string Endpoints.google.oauth.text)]), ("redirect_uri", .string redirectUri),
        ("client_secret", .string ""), ("client_id", .string clientId)]).render = text) :=
    either clientId "" redirectUri (some .google) _ text stable
      ⟨_, [("extra", .null)], .given places_told, List.reverse_perm _,
        List.forall_mem_singleton.2 (by decide)⟩
      (text_eq ▸ (Json.spells_object (.cons extra_written (.cons places_written
        (.cons (Json.tells_string _ _) (.cons (Json.tells_string _ _)
          (.cons (Json.tells_string _ _) .nil)))))).document)
  have made : new "app" "" "https://a.example/cb" =
      .ok ⟨"app", ⟨""⟩, "https://a.example/cb", .google, by decide, by decide +kernel⟩ :=
    make_eq_ok_iff.2 ⟨rfl, rfl, rfl, rfl⟩
  refine ⟨⟨_, made, ?_, (later _ (.made made)).1 google_stable⟩, ?_⟩
  · exact ((read (by decide +kernel)).2 _ made).1
  · exact (read (by decide +kernel)).1 _ ((errors "" "" "nowhere" _).2 (.inl ⟨rfl, rfl⟩))

end Registration

end SignIn
