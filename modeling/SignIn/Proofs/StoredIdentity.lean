import SignIn.Login.Google
import SignIn.Proofs.Dictionary
import SignIn.Proofs.Json.Readings
import SignIn.Proofs.Json.Rendering
import SignIn.Proofs.Profile

/-!
# Identities as texts

An identity can be made of its parts or be read from a text that tells them.  Both ways come to the
same identity, or both fail; and an identity that has been written down is read back as it was.
-/

namespace SignIn.Identity

/-! ## The text -/

/-- A name and properties, the properties in a given order, as a value to be written. -/
def partsValue (urn : String) (pairs : List (String × String)) : Json.Value :=
  .object [("urn", .string urn),
    ("properties", .object (pairs.map fun pair => (pair.1, .string pair.2)))]

/-- A name and properties, the properties in a given order, as a text tells them. -/
def partsTree (urn : String) (pairs : List (String × String)) : Json.Tree :=
  .object [("urn", .string urn),
    ("properties", .object (pairs.map fun pair => (pair.1, .string pair.2)))]

theorem value_eq (identity : Identity) :
    identity.value = partsValue identity.urn identity.properties.entries := rfl

/-- The parts are written as they are told. -/
theorem spells_parts (urn : String) (pairs : List (String × String)) :
    Json.SpellsDocument (partsTree urn pairs)
      (Utf8.encode (partsValue urn pairs).render.toList) := by
  have pairs_told : List.Forall₂ Json.TellsMember
      (pairs.map fun pair => (pair.1, Json.Value.string pair.2))
      (pairs.map fun pair => (pair.1, Json.Tree.string pair.2)) := by
    rw [List.forall₂_map_left_iff, List.forall₂_map_right_iff]
    exact List.forall₂_same.2 fun pair _ => Json.tells_string pair.1 pair.2
  have properties_told : Json.TellsMember ("properties", .object _) ("properties", .object _) :=
    ⟨rfl, Json.spells_object pairs_told⟩
  exact (Json.spells_object
    (.cons (Json.tells_string "urn" urn) (.cons properties_told .nil))).document

/-! ## Reading -/

/-- How the value of a member changes a draft. -/
def filling (name : String) (tree : Json.Tree) : Option (Draft → Draft) :=
  if name = "urn" then tree.text?.map fun urn draft => { draft with urn := some urn }
  else tree.texts?.map fun properties draft => { draft with properties := some properties }

/-- Every part fills its own field of the draft. -/
theorem makes_record (urn : String) (pairs : List (String × String)) :
    Json.Makes record.read (partsTree urn pairs) (some ⟨some urn, some (.ofList pairs)⟩) := by
  have fills : ∀ member ∈ [("urn", Json.Tree.string urn),
      ("properties", .object (pairs.map fun pair => (pair.1, .string pair.2)))],
      ∀ field ∈ record.fields, field.name = member.1 →
        Json.Fills field member.2 (filling field.name member.2) := by
    simp only [List.forall_mem_cons, record]
    refine ⟨⟨fun _ => ?_, fun differ => ?_, List.forall_mem_nil _⟩,
      ⟨fun differ => ?_, fun _ => ?_, List.forall_mem_nil _⟩, List.forall_mem_nil _⟩
    · rw [filling, if_pos rfl]
      exact (Json.makes_text _).fills fun _ => rfl
    · exact absurd differ (by decide)
    · exact absurd differ (by decide)
    · rw [filling, if_neg (by decide)]
      exact (Json.makes_texts _).fills fun _ => rfl
  have filled := Json.Record.makes fills
  have properties_eq := Json.Tree.texts?_object pairs
  simpa [Json.Record.step, record, filling, Json.Tree.text?, properties_eq, Except.toOption,
    partsTree] using filled

/-- An identity is read from its parts exactly as it is made of them. -/
theorem document_parts {urn : String} {pairs : List (String × String)} {text : String}
    (told : Json.SpellsDocument (partsTree urn pairs) (Utf8.encode text.toList)) :
    Json.document reader text =
      (new urn pairs).mapError fun error => .here (.rejected error.message) := by
  rw [reader, Json.document_refine (makes_record urn pairs) told, ofDraft, Option.getD_some,
    Option.getD_some, new]
  cases make urn (.ofList pairs) with
  | error error => rfl
  | ok identity => rfl

/-- Parts with a name make an identity in which the last property of a key counts. -/
theorem new_named {urn : String} (named : urn ≠ "") (pairs : List (String × String)) :
    ∃ identity, new urn pairs = .ok identity ∧ identity.urn = urn ∧
      ∀ key, identity.property? key =
        ((pairs.filter fun pair => pair.1 == key).getLast?).map (·.2) :=
  ⟨⟨urn, .ofList pairs, named⟩, dif_neg named, rfl, Dictionary.get?_ofList_eq_last pairs⟩

/-- An identity is made of its own parts. -/
theorem new_parts (identity : Identity) :
    new identity.urn identity.properties.entries = .ok identity := by
  rw [new, Dictionary.ofList_entries, make, dif_neg identity.urn_ne_empty]

/-- An identity is read back from what has been written of it. -/
theorem document_render (identity : Identity) :
    Json.document reader identity.value.render = .ok identity := by
  rw [value_eq, document_parts (spells_parts identity.urn identity.properties.entries), new_parts,
    mapError_ok]

/-! ## Either way -/

/-- The ways in which an identity comes about. -/
inductive Obtained : Identity → Prop where
  /-- It is made of a name and properties. -/
  | made {urn : String} {pairs : List (String × String)} {identity : Identity}
      (made : new urn pairs = .ok identity) : Obtained identity
  /-- It is made for a user of a provider. -/
  | namespaced {provider user : String} {pairs : List (String × String)} {identity : Identity}
      (made : namespaced provider user pairs = .ok identity) : Obtained identity
  /-- It is read from a text. -/
  | read {text : String} {identity : Identity}
      (read : Json.document reader text = .ok identity) : Obtained identity
  /-- It is found out in a login. -/
  | entered {registration : Registration} {message : Message} {answers : List Answer}
      {identity : Identity}
      (entered : ((Google.enter registration message).play answers).result = .ok identity) :
      Obtained identity

/-- Every identity comes about by being made of its parts. -/
theorem obtained (identity : Identity) : Obtained identity := .made (new_parts identity)

/-- However the parts of an identity are spelled, reading them comes to what is made of them: both
fail if there is no name, and otherwise the last property of a key counts.  What is written of an
identity is read back as that identity, and is written again as it was.  Whichever way an identity
comes about, it has a name. -/
theorem read_as_built :
    (∀ (urn : String) (pairs : List (String × String)),
      Json.SpellsDocument (partsTree urn pairs)
        (Utf8.encode (partsValue urn pairs).render.toList) ∧
      ∀ text : String, Json.SpellsDocument (partsTree urn pairs) (Utf8.encode text.toList) →
        (urn = "" → new urn pairs = .error .emptyUrn ∧ Json.document reader text =
          .error (.here (.rejected IdentityError.emptyUrn.message))) ∧
        (urn ≠ "" → ∃ identity, new urn pairs = .ok identity ∧
          Json.document reader text = .ok identity ∧ identity.urn = urn ∧
            ∀ key, identity.property? key =
              ((pairs.filter fun pair => pair.1 == key).getLast?).map (·.2))) ∧
    (∀ identity, ∃ again, Json.document reader identity.value.render = .ok again ∧
      again = identity ∧ again.value.render = identity.value.render) ∧
    ∀ identity, Obtained identity → identity.urn ≠ "" := by
  refine ⟨fun urn pairs => ⟨spells_parts urn pairs, fun text told => ⟨?_, ?_⟩⟩,
    fun identity => ⟨identity, document_render identity, rfl, rfl⟩,
    fun identity _ => identity.urn_ne_empty⟩
  · rintro rfl
    have fails : new "" pairs = .error .emptyUrn := by rw [new, make, dif_pos rfl]
    rw [document_parts told, fails, mapError_error]
    exact ⟨rfl, rfl⟩
  · intro named
    obtain ⟨identity, made, urn_eq, properties_eq⟩ := new_named named pairs
    refine ⟨identity, made, ?_, urn_eq, properties_eq⟩
    rw [document_parts told, made, mapError_ok]

/-- A key is there twice, and its last value is empty; another key has to be escaped.  Without a
name there is no identity. -/
theorem read_as_built_repeated :
    (∃ identity, new "a" [("k", "1"), ("\"", "𝄞"), ("k", "")] = .ok identity ∧
      Json.document reader
        "\x7b\"urn\":\"a\",\"properties\":\x7b\"k\":\"1\",\"\\\"\":\"𝄞\",\"k\":\"\"\x7d\x7d" =
          .ok identity ∧
      identity.property? "k" = some "" ∧ identity.property? "\"" = some "𝄞" ∧
      identity.urn ≠ "") ∧
    Json.document reader "\x7b\"urn\":\"\",\"properties\":\x7b\x7d\x7d" =
      .error (.here (.rejected "Identity URN cannot be empty.")) := by
  have text_eq : (partsValue "a" [("k", "1"), ("\"", "𝄞"), ("k", "")]).render =
      "\x7b\"urn\":\"a\",\"properties\":\x7b\"k\":\"1\",\"\\\"\":\"𝄞\",\"k\":\"\"\x7d\x7d" := by
    decide +kernel
  have unnamed_eq : (partsValue "" []).render =
      "\x7b\"urn\":\"\",\"properties\":\x7b\x7d\x7d" := by decide +kernel
  obtain ⟨both, -, named⟩ := read_as_built
  obtain ⟨written, agree⟩ := both "a" [("k", "1"), ("\"", "𝄞"), ("k", "")]
  obtain ⟨unnamed_written, unnamed_agree⟩ := both "" []
  obtain ⟨identity, made, read, -, property_eq⟩ := (agree _ written).2 (by decide)
  obtain ⟨-, refused⟩ := (unnamed_agree _ unnamed_written).1 rfl
  rw [text_eq] at read
  rw [unnamed_eq] at refused
  exact ⟨⟨identity, made, read, (property_eq "k").trans (by decide),
    (property_eq "\"").trans (by decide), named identity (.read read)⟩, refused⟩

end SignIn.Identity
