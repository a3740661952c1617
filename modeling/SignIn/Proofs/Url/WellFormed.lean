import Mathlib.Data.List.TakeWhile
import SignIn.Proofs.Url.Changes
import SignIn.Proofs.Url.Pieces
import SignIn.Proofs.Url.Reading
import SignIn.Text.Letter

/-!
# Well-formed URLs

The parts of a URL that has been read can be told from its text.  Extending the URL and adding named
values to it keep this.
-/

namespace SignIn.Url

/-! ## The invariant -/

/-- A word in lower case that can be a scheme. -/
structure IsScheme (scheme : List Char) : Prop where
  /-- The word is not empty. -/
  ne_nil : scheme ≠ []
  /-- The word ends at the colon. -/
  inner : ∀ char ∈ scheme, inScheme char = true
  /-- The word is in lower case. -/
  lower : scheme.map Char.toLower = scheme

/-- Segments that do not look like an authority when they follow the scheme. -/
structure IsApart (shielded : Bool) (segments : List (List Char)) : Prop where
  /-- There is a segment. -/
  ne_nil : segments ≠ []
  /-- A shield stands where it is needed. -/
  shield : needsShield segments = true → shielded = true

/-- The parts of a URL can be told from its text. -/
structure WellFormed (url : Url) : Prop where
  /-- The scheme ends at the colon. -/
  scheme : IsScheme url.scheme
  /-- The authority ends at the path. -/
  authority_piece : ∀ authority, url.authority = some authority → IsPiece authority.text
  /-- A segment ends at the next one, and the last one at the query or the fragment. -/
  segments_piece : ∀ own, url.path = .rooted own → ∀ segment ∈ own, IsPiece segment
  /-- The query ends at the fragment. -/
  query_inner : ∀ query, url.query = some query → '#' ∉ query
  /-- Without an authority the segments do not look like one. -/
  apart : url.authority = none → ∀ own, url.path = .rooted own → IsApart url.shielded own

/-! ## Schemes -/

theorem inScheme_toLower {char : Char} (inside : inScheme char = true) :
    inScheme char.toLower = true := by
  cases upper : char.isUpper with
  | true =>
    obtain ⟨index, rfl⟩ := Text.eq_ofNat_of_isUpper upper
    revert index
    decide
  | false => rwa [Text.toLower_of_not_isUpper upper]

theorem isScheme_of_splitScheme? {text scheme rest : List Char}
    (split_eq : splitScheme? text = some (scheme, rest)) : IsScheme scheme := by
  obtain ⟨word, -, rfl, word_ne, inner⟩ := splitScheme?_eq_some split_eq
  refine ⟨by simpa using word_ne, fun char member => ?_, ?_⟩
  · obtain ⟨given, inside, rfl⟩ := List.mem_map.1 member
    exact inScheme_toLower (inner given inside)
  · simp only [List.map_map, Function.comp_def, Text.toLower_toLower]

/-! ## Queries -/

theorem encodedQuery_inner {parts : Parts} {kind : SchemeKind} {query : List Char}
    (query_eq : parts.encodedQuery kind = some query) : '#' ∉ query := by
  obtain ⟨given, -, rfl⟩ := Option.map_eq_some_iff.1 query_eq
  intro member
  have guarded :
      (if kind.isSpecial then Percent.inSpecialQuery else Percent.inQuery) '#' = true := by
    split <;> rfl
  rcases Percent.mem_encode member with ⟨-, plain⟩ | percent | alphanumeric
  · rw [guarded] at plain
    cases plain
  · exact absurd percent (by decide)
  · exact absurd alphanumeric (by decide)

/-! ## Readings -/

theorem wellFormed_readFromAuthority {scheme text : List Char} {parts : Parts} {url : Url}
    (is_scheme : IsScheme scheme) (read_eq : readFromAuthority scheme parts text = .ok url) :
    url.WellFormed := by
  unfold readFromAuthority at read_eq
  dsimp only at read_eq
  split at read_eq
  · cases read_eq
  · rename_i authority rest authority_eq
    cases read_eq
    refine ⟨is_scheme, ?_, ?_, fun query => encodedQuery_inner, nofun⟩
    · rintro _ ⟨⟩
      exact isPiece_readAuthority authority_eq
    · rintro _ ⟨⟩
      unfold readPath
      split
      · simp
      · exact isPiece_resolve (by simp)

theorem wellFormed_fileOf {host : Option Host} {segments : List (List Char)} {parts : Parts}
    (host_piece : ∀ given, host = some given → IsPiece given.text)
    (pieces : ∀ segment ∈ segments, IsPiece segment) : (fileOf host segments parts).WellFormed := by
  have is_scheme : IsScheme ['f', 'i', 'l', 'e'] := ⟨by decide, List.all_eq_true.1 rfl, rfl⟩
  refine ⟨is_scheme, ?_, ?_, fun query => encodedQuery_inner, nofun⟩
  · rintro _ ⟨⟩
    refine isPiece_authority isPiece_nil nofun fun given given_eq => host_piece given ?_
    dsimp only at given_eq
    split at given_eq
    · cases given_eq
    · exact given_eq
  · rintro _ ⟨⟩
    exact isPiece_collapse pieces

theorem wellFormed_readFile {parts : Parts} {url : Url} (read_eq : readFile parts = .ok url) :
    url.WellFormed := by
  obtain ⟨host, text, rfl, host_read⟩ := readFile_eq_ok read_eq
  refine wellFormed_fileOf (fun given given_eq => ?_) (isPiece_resolve (by simp))
  obtain ⟨hostText, read⟩ := host_read given given_eq
  exact isPiece_read read

theorem wellFormed_readOther {scheme : List Char} {parts : Parts} {url : Url}
    (is_scheme : IsScheme scheme) (read_eq : readOther scheme parts = .ok url) :
    url.WellFormed := by
  unfold readOther at read_eq
  split at read_eq
  · exact wellFormed_readFromAuthority is_scheme read_eq
  · cases read_eq
    refine ⟨is_scheme, nofun, ?_, fun query => encodedQuery_inner, ?_⟩
    · rintro _ ⟨⟩
      exact isPiece_resolve (by simp)
    · rintro - _ ⟨⟩
      exact ⟨resolve_ne_nil _ _ _, id⟩
  · cases read_eq
    exact ⟨is_scheme, nofun, nofun, fun query => encodedQuery_inner, nofun⟩

/-- Whatever is read as a URL is well-formed. -/
theorem wellFormed_of_parse {text : List Char} {url : Url} (read_eq : parse text = .ok url) :
    url.WellFormed := by
  unfold parse at read_eq
  split at read_eq
  · rename_i scheme rest split_eq
    have is_scheme := isScheme_of_splitScheme? split_eq
    unfold readAfterScheme at read_eq
    dsimp only at read_eq
    split at read_eq
    · exact wellFormed_readFile read_eq
    · exact wellFormed_readFromAuthority is_scheme read_eq
    · exact wellFormed_readOther is_scheme read_eq
  · cases read_eq

/-! ## Changes -/

theorem needsShield_iff {segments : List (List Char)} :
    needsShield segments = true ↔ ∃ second rest, segments = [] :: second :: rest := by
  unfold needsShield
  split
  · simp
  · rename_i apart
    simpa using fun second rest => apart second rest

theorem isPrefix_dropEmptyEnd (segments : List (List Char)) :
    dropEmptyEnd segments <+: segments := by
  unfold dropEmptyEnd
  split
  · exact List.dropLast_prefix segments
  · exact List.prefix_rfl

theorem IsApart.dropEmptyEnd {shielded : Bool} {segments : List (List Char)}
    (apart : IsApart shielded segments) : IsApart shielded (dropEmptyEnd segments) := by
  refine ⟨?_, fun looks => apart.shield ?_⟩
  · unfold Url.dropEmptyEnd
    split
    · rename_i several
      rw [← List.length_pos_iff, List.length_dropLast]
      omega
    · exact apart.ne_nil
  · obtain ⟨back, whole⟩ := isPrefix_dropEmptyEnd segments
    obtain ⟨second, rest, front_eq⟩ := needsShield_iff.1 looks
    rw [front_eq] at whole
    exact needsShield_iff.2 ⟨second, rest ++ back, whole.symm⟩

theorem isPiece_encodeSegment (kind : SchemeKind) (segment : List Char) :
    IsPiece (encodeSegment kind segment) := by
  refine isPiece_encode fun char _ stop => ?_
  split <;> rcases isStop_iff.1 stop with rfl | rfl | rfl <;> rfl

/-- What is pushed stands behind the segments or some of them.  A path that is a root alone gives
way, and the path of a file is collapsed. -/
theorem pushSegment_eq (kind : SchemeKind) (segments : List (List Char)) (segment : List Char) :
    pushSegment kind segments segment = segments ∨
      ∃ front last, front <+: segments ∧ (segments = [[]] → front = []) ∧ IsPiece last ∧
        (pushSegment kind segments segment = front ++ [last] ∨
          pushSegment kind segments segment = UrlPath.collapse (front ++ [last])) := by
  unfold pushSegment
  split
  · exact .inl rfl
  · right
    dsimp only
    generalize before_eq : (if segments = [[]] then [] else segments.reverse) = before
    obtain ⟨last, kept, finished, suffix, piece⟩ :=
      finish_eq kind before (encodeSegment kind segment)
    have walked :
        UrlPath.walk kind before [encodeSegment kind segment] = kept.reverse ++ [last] := by
      rw [UrlPath.walk, finished, List.reverse_cons]
    rw [walked]
    refine ⟨kept.reverse, last, ?_, ?_, piece (isPiece_encodeSegment kind segment), ?_⟩
    · split at before_eq
      · subst before_eq
        rw [List.suffix_nil.1 suffix]
        exact List.nil_prefix
      · rw [← List.reverse_suffix, List.reverse_reverse]
        exact before_eq ▸ suffix
    · rintro root
      rw [if_pos root] at before_eq
      subst before_eq
      rw [List.suffix_nil.1 suffix, List.reverse_nil]
    · split
      · exact .inr rfl
      · exact .inl rfl

theorem isPiece_pushSegment {kind : SchemeKind} {segments : List (List Char)} (segment : List Char)
    (pieces : ∀ other ∈ segments, IsPiece other) :
    ∀ other ∈ pushSegment kind segments segment, IsPiece other := by
  rcases pushSegment_eq kind segments segment with same | ⟨front, last, front_of, -, piece, pushed⟩
  · rwa [same]
  · have all : ∀ other ∈ front ++ [last], IsPiece other := by
      refine List.forall_mem_append.2
        ⟨fun other member => pieces other (front_of.subset member), ?_⟩
      simpa using piece
    rcases pushed with pushed | pushed
    · rwa [pushed]
    · rw [pushed]
      exact isPiece_collapse all

theorem IsApart.pushSegment {shielded : Bool} {segments : List (List Char)}
    (apart : IsApart shielded segments) (kind : SchemeKind) (segment : List Char) :
    IsApart shielded (pushSegment kind segments segment) := by
  rcases pushSegment_eq kind segments segment with
    same | ⟨front, last, ⟨back, rfl⟩, root, -, pushed | pushed⟩
  · rwa [same]
  · rw [pushed]
    refine ⟨by simp, fun looks => ?_⟩
    obtain ⟨second, rest, whole⟩ := needsShield_iff.1 looks
    cases front with
    | nil => simp at whole
    | cons first front =>
      -- The path starts with an empty segment, so it needed a shield before unless it was a root.
      obtain ⟨rfl, -⟩ := List.cons.inj whole
      cases behind : front ++ back with
      | nil =>
        rw [List.cons_append, behind] at root
        exact absurd (root rfl) (by simp)
      | cons other others =>
        refine apart.shield (needsShield_iff.2 ⟨other, others, ?_⟩)
        rw [List.cons_append, behind]
  · rw [pushed]
    rcases collapse_eq (front ++ [last]) with alone | ⟨-, first, rest, collapsed, first_ne⟩
    · rw [alone]
      exact ⟨by simp, nofun⟩
    · rw [collapsed]
      refine ⟨by simp, fun looks => ?_⟩
      obtain ⟨second, others, whole⟩ := needsShield_iff.1 looks
      exact absurd (List.cons.inj whole).1 first_ne

/-- What holds at the start and is kept by every push holds of an extended path. -/
theorem extended_keeps (Keeps : List (List Char) → Prop) {kind : SchemeKind}
    {own : List (List Char)} {segments : List String} (start : Keeps (dropEmptyEnd own))
    (push : ∀ before segment, Keeps before → Keeps (pushSegment kind before segment)) :
    Keeps (extended kind own segments) :=
  List.foldlRecOn _ _ start fun before kept segment _ => push before segment kept

/-- An extension of a well-formed URL is well-formed, whatever the segments are. -/
theorem WellFormed.extend? {url place : Url} {segments : List String} (formed : url.WellFormed)
    (extended_eq : url.extend? segments = some place) : place.WellFormed := by
  obtain ⟨own, path_eq, rfl⟩ := extend?_eq_some_iff.1 extended_eq
  refine ⟨formed.scheme, formed.authority_piece, ?_, formed.query_inner, ?_⟩
  · rintro _ ⟨⟩
    refine extended_keeps (fun others => ∀ other ∈ others, IsPiece other) ?_
      fun before segment pieces => isPiece_pushSegment segment pieces
    exact fun segment member =>
      formed.segments_piece own path_eq segment ((isPrefix_dropEmptyEnd own).subset member)
  · rintro no_authority _ ⟨⟩
    exact extended_keeps (IsApart url.shielded) (formed.apart no_authority own path_eq).dropEmptyEnd
      fun before segment apart => apart.pushSegment _ segment

theorem WellFormed.appendPair {url : Url} (formed : url.WellFormed) (name value : String) :
    (url.appendPair name value).WellFormed := by
  have pair_inner : '#' ∉ Form.encodePair (name.toList, value.toList) := fun member =>
    absurd (Form.isLine_of_mem_encodePair member) (by decide)
  refine ⟨formed.scheme, formed.authority_piece, formed.segments_piece, ?_, formed.apart⟩
  rintro _ ⟨⟩
  split
  · exact pair_inner
  · exact pair_inner
  · rename_i query _ query_eq
    have query_inner := formed.query_inner query query_eq
    simp [query_inner, pair_inner]

end SignIn.Url
