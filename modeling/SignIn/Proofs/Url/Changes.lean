import SignIn.Proofs.Url.Form
import SignIn.Url.Basic

/-!
# Changes of a URL

Named values that are added to a URL are read behind those that it has, whatever its query is and
whatever they consist of.  They change nothing but the query, and an extension nothing but the path.
-/

namespace SignIn.Url

/-! ## Named values -/

/-- The named values of the query in order, as strings. -/
def namedValues (url : Url) : List (String × String) :=
  url.queryPairs.map fun (name, value) => (String.ofList name, String.ofList value)

/-- A pair behind any query is read behind the pairs of that query. -/
theorem queryPairs_appendPair (url : Url) (name value : String) :
    (url.appendPair name value).queryPairs = url.queryPairs ++ [(name.toList, value.toList)] := by
  have alone : Form.decode (Form.encodePair (name.toList, value.toList)) =
      [(name.toList, value.toList)] := by
    have whole := Form.decode_encode [(name.toList, value.toList)]
    rwa [Form.encode, Form.encodeMore, List.flatMap_nil, List.append_nil] at whole
  unfold appendPair queryPairs
  cases url.query with
  | none => exact alone
  | some query =>
    cases query with
    | nil => exact alone
    | cons char query => exact Form.decode_append (char :: query) _

/-- What stands in front of a pair that is added does not depend on the value. -/
theorem appendPair_eq (url : Url) (name : String) :
    ∃ front, ∀ value, url.appendPair name value =
      { url with query := some (front ++ Form.encodePair (name.toList, value.toList)) } := by
  unfold appendPair
  cases url.query with
  | none => exact ⟨[], fun value => rfl⟩
  | some query =>
    cases query with
    | nil => exact ⟨[], fun value => rfl⟩
    | cons char query =>
      exact ⟨char :: query ++ ['&'], fun value => by simp⟩

@[simp]
theorem namedValues_appendPair (url : Url) (name value : String) :
    (url.appendPair name value).namedValues = url.namedValues ++ [(name, value)] := by
  rw [namedValues, queryPairs_appendPair, List.map_append, namedValues]
  simp

/-- Add named values in order. -/
def appendPairs (url : Url) (pairs : List (String × String)) : Url :=
  pairs.foldl (fun url (name, value) => url.appendPair name value) url

theorem namedValues_appendPairs (url : Url) (pairs : List (String × String)) :
    (url.appendPairs pairs).namedValues = url.namedValues ++ pairs := by
  induction pairs generalizing url with
  | nil => simp [appendPairs]
  | cons pair pairs ih =>
    have later := ih (url.appendPair pair.1 pair.2)
    rwa [namedValues_appendPair, List.append_assoc] at later

/-- Named values change nothing but the query. -/
theorem appendPairs_frame (url : Url) (pairs : List (String × String)) :
    ∃ query, url.appendPairs pairs = { url with query } := by
  induction pairs generalizing url with
  | nil => exact ⟨url.query, rfl⟩
  | cons pair pairs ih =>
    obtain ⟨query, later⟩ := ih (url.appendPair pair.1 pair.2)
    exact ⟨query, later⟩

/-! ## Extensions -/

/-- The segments of a path that is extended. -/
def extended (kind : SchemeKind) (own : List (List Char)) (segments : List String) :
    List (List Char) :=
  (segments.map String.toList).foldl (pushSegment kind) (dropEmptyEnd own)

/-- An extension changes nothing but the path, which has to have segments. -/
theorem extend?_eq_some_iff {url place : Url} {segments : List String} :
    url.extend? segments = some place ↔
      ∃ own, url.path = .rooted own ∧
        place = { url with path := .rooted (extended url.kind own segments) } := by
  unfold extend?
  cases path_eq : url.path with
  | flat text => simp
  | rooted own => simp [extended, eq_comm]

/-- A URL can be extended exactly if it can be a base. -/
theorem extend?_eq_none_iff {url : Url} {segments : List String} :
    url.extend? segments = none ↔ url.canBeBase = false := by
  unfold extend? canBeBase
  cases url.path <;> simp

end SignIn.Url
