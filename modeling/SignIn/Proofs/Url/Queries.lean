import SignIn.Proofs.Url.Reading
import SignIn.Proofs.Url.Respelling

/-!
# Queries

The named values of a URL that has been read are those in the query of its text: whatever the scheme
and the base are, nothing is lost of what stands between the first question mark and a fragment.
-/

namespace SignIn.Url

/-! ## Queries of texts -/

/-- A text holds a query: what stands behind the first question mark, up to a fragment. -/
inductive HoldsQuery : List Char → List Char → Prop where
  /-- The query ends the text. -/
  | last {before query : List Char} (no_query : '?' ∉ before) (outside : '#' ∉ before)
      (inside : '#' ∉ query) : HoldsQuery (before ++ '?' :: query) query
  /-- A fragment follows the query. -/
  | inner {before query : List Char} (no_query : '?' ∉ before) (outside : '#' ∉ before)
      (inside : '#' ∉ query) (fragment : List Char) :
      HoldsQuery (before ++ '?' :: (query ++ '#' :: fragment)) query

theorem query_of_holdsQuery {text query : List Char} (holds : HoldsQuery text query) :
    (parts text).query = some query := by
  cases holds with
  | @last before _ no_query outside inside =>
    have no_fragment : '#' ∉ before ++ '?' :: query := by
      simp [outside, inside]
    rw [parts_query no_fragment no_query]
  | @inner before _ no_query outside inside fragment =>
    have no_fragment : '#' ∉ before ++ '?' :: query := by
      simp [outside, inside]
    have text_eq : before ++ '?' :: (query ++ '#' :: fragment) =
        (before ++ '?' :: query) ++ '#' :: fragment := by simp
    simp only [parts, text_eq, cutAt_append no_fragment, cutAt_append no_query]

/-- What starts neither a query nor a fragment does not change the query behind it. -/
theorem query_parts_append {front : List Char} (no_query : '?' ∉ front) (no_fragment : '#' ∉ front)
    (text : List Char) : (parts (front ++ text)).query = (parts text).query := by
  induction front with
  | nil => rfl
  | cons char front ih =>
    rw [List.mem_cons, not_or] at no_query no_fragment
    rw [List.cons_append, parts_cons (Ne.symm no_query.1) (Ne.symm no_fragment.1),
      ih no_query.2 no_fragment.2]

/-- A scheme is cut off in front of the query. -/
theorem query_of_splitScheme? {text scheme rest : List Char}
    (split_eq : splitScheme? text = some (scheme, rest)) :
    (parts rest).query = (parts text).query := by
  obtain ⟨word, rfl, -, -, inner⟩ := splitScheme?_eq_some split_eq
  have no_query : '?' ∉ word := fun member => absurd (inner _ member) (by decide)
  have no_fragment : '#' ∉ word := fun member => absurd (inner _ member) (by decide)
  rw [query_parts_append no_query no_fragment, parts_cons (by decide) (by decide)]

/-! ## Queries of URLs -/

/-- A URL has a given query, with percent signs for what cannot stand in it. -/
def Asks (place : Url) (parts : Parts) : Prop := ∃ kind, place.query = parts.encodedQuery kind

section

variable {place : Url} {parts : Parts}

theorem asks_readFromAuthority {scheme text : List Char}
    (read_eq : readFromAuthority scheme parts text = .ok place) : place.Asks parts := by
  unfold readFromAuthority at read_eq
  dsimp only at read_eq
  split at read_eq
  · cases read_eq
  · cases read_eq
    exact ⟨_, rfl⟩

theorem asks_readFile (read_eq : readFile parts = .ok place) : place.Asks parts := by
  obtain ⟨host, text, rfl, -⟩ := readFile_eq_ok read_eq
  exact ⟨_, rfl⟩

theorem asks_readOther {scheme : List Char} (read_eq : readOther scheme parts = .ok place) :
    place.Asks parts := by
  unfold readOther at read_eq
  split at read_eq
  · exact asks_readFromAuthority read_eq
  · cases read_eq
    exact ⟨_, rfl⟩
  · cases read_eq
    exact ⟨_, rfl⟩

theorem asks_resolve {base : Url} {own : List (List Char)} (some_query : parts.query.isSome = true)
    (resolve_eq : base.resolve own parts = .ok place) : place.Asks parts := by
  unfold resolve at resolve_eq
  split at resolve_eq
  · cases resolve_eq
    exact ⟨_, if_pos some_query⟩
  · split at resolve_eq
    · split at resolve_eq
      · cases resolve_eq
        exact ⟨_, rfl⟩
      · split at resolve_eq
        · exact asks_readFromAuthority resolve_eq
        · cases resolve_eq
          exact ⟨_, rfl⟩
    · cases resolve_eq
      exact ⟨_, rfl⟩

end

theorem asks_readAfterScheme {scheme text : List Char} {place : Url}
    (read_eq : readAfterScheme scheme text = .ok place) : place.Asks (parts text) := by
  unfold readAfterScheme at read_eq
  dsimp only at read_eq
  split at read_eq
  · exact asks_readFile read_eq
  · exact asks_readFromAuthority read_eq
  · exact asks_readOther read_eq

/-- The named values of a URL are those of the query that was given. -/
theorem Asks.queryPairs {place : Url} {parts : Parts} (asks : place.Asks parts) {query : List Char}
    (query_eq : parts.query = some query) : place.queryPairs = Form.decode query := by
  obtain ⟨kind, asked⟩ := asks
  have spares : ∀ char, Form.isLine char = true →
      (if kind.isSpecial then Percent.inSpecialQuery else Percent.inQuery) char = false := by
    intro char line
    have special := Form.not_inSpecialQuery_of_isLine line
    split
    · exact special
    · exact ((Bool.or_eq_false_iff ..).1 special).1
  rw [Parts.encodedQuery, query_eq, Option.map_some] at asked
  rw [Url.queryPairs, asked]
  exact Form.decode_percentEncode spares query

theorem parameter?_eq_lookup (place : Url) (name : String) :
    place.parameter? name = (place.queryPairs.lookup name.toList).map String.ofList := by
  rw [parameter?]
  induction place.queryPairs with
  | nil => rfl
  | cons pair pairs ih =>
    obtain ⟨first, value⟩ := pair
    rw [List.lookup_cons, List.find?_cons, BEq.comm]
    cases name.toList == first with
    | true => rfl
    | false => exact ih

/-- Nothing is cleaned away from a text without blanks. -/
theorem clean_eq_self {text : List Char} (inner : ∀ char ∈ text, isMargin char = false) :
    clean text = text := by
  cases text with
  | nil => rfl
  | cons char text =>
    have later : ∀ other ∈ text, isMargin other = false := fun other member =>
      inner other (List.mem_cons_of_mem _ member)
    rw [clean_cons (inner char List.mem_cons_self), cleanEnd_eq_self later]

section

variable {text query : List Char} (inner : ∀ char ∈ text, isMargin char = false)
  (holds : HoldsQuery text query) {place : Url}
include inner holds

/-- The named values of a URL are those in the query of its text. -/
theorem queryPairs_of_parse (parse_eq : parse text = .ok place) :
    place.queryPairs = Form.decode query := by
  rw [parse, clean_eq_self inner] at parse_eq
  split at parse_eq
  · rename_i scheme rest split_eq
    refine (asks_readAfterScheme parse_eq).queryPairs ?_
    rw [query_of_splitScheme? split_eq, query_of_holdsQuery holds]
  · cases parse_eq

/-- A reference that holds a query keeps it whatever it is resolved against. -/
theorem queryPairs_of_join {base : Url} {own : List (List Char)} (path_eq : base.path = .rooted own)
    (join_eq : base.join text = .ok place) : place.queryPairs = Form.decode query := by
  have query_eq := query_of_holdsQuery holds
  simp only [join, clean_eq_self inner, path_eq] at join_eq
  cases split_eq : splitScheme? text with
  | none =>
    rw [split_eq] at join_eq
    exact (asks_resolve (by rw [query_eq]; rfl) join_eq).queryPairs query_eq
  | some split =>
    obtain ⟨scheme, rest⟩ := split
    have rest_query := (query_of_splitScheme? split_eq).trans query_eq
    rw [split_eq] at join_eq
    dsimp only at join_eq
    split at join_eq
    · exact (asks_resolve (by rw [rest_query]; rfl) join_eq).queryPairs rest_query
    · exact (asks_readAfterScheme join_eq).queryPairs rest_query

end

end SignIn.Url
