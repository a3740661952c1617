import SignIn.Proofs.Requests
import SignIn.Proofs.Url.Extension

/-!
# Paths of endpoints

Words that are added to the path of a base follow it behind one slash each, and nothing else of the
base changes.  It does not matter whether a slash ends the path of the base, nor whether the words
are added at once or in turns.
-/

namespace SignIn

namespace Endpoints

open Url

/-- Segments of ASCII letters and digits, at least one. -/
structure AreWords (segments : List String) : Prop where
  /-- There is a segment. -/
  ne_nil : segments ≠ []
  /-- Each segment is a word. -/
  words : ∀ segment ∈ segments, IsWord segment.toList

instance (segments : List String) : Decidable (AreWords segments) :=
  decidable_of_iff (segments ≠ [] ∧ ∀ segment ∈ segments, IsWord segment.toList)
    ⟨fun both => ⟨both.1, both.2⟩, fun words => ⟨words.ne_nil, words.words⟩⟩

theorem AreWords.append {front back : List String} (first : AreWords front)
    (second : AreWords back) : AreWords (front ++ back) :=
  ⟨by simp [first.ne_nil], List.forall_mem_append.2 ⟨first.words, second.words⟩⟩

/-- What becomes of a base when segments are added to its path. -/
structure LiesBelow (name : String) (base : Url) (segments : List String)
    (result : Except ConfigError Url) : Prop where
  /-- There is an error exactly if no slash follows the scheme of the base. -/
  refused : (∃ error, result = .error error) ↔
    ¬∃ rest, base.chars = base.scheme ++ ':' :: '/' :: rest
  /-- The error tells which base it is, and its text. -/
  error : ∀ error, result = .error error → error = .endpoint name base.text
  /-- Nothing but the path is changed. -/
  frame : ∀ url, result = .ok url → url = { base with path := url.path }
  /-- The segments follow what stays of the path behind one slash each. -/
  path : ∀ url, result = .ok url → url.path.text =
    trunk base.path.text ++ '/' :: ['/'].intercalate (segments.map String.toList)

/-- How a base is extended by words. -/
structure ExtendsBase (name : String) (below : Url → List String → Except ConfigError Url)
    (base : Url) : Prop where
  /-- The words follow the path. -/
  lies : ∀ segments, AreWords segments → LiesBelow name base segments (below base segments)
  /-- A slash behind a path that has none at its end makes no difference. -/
  slash : ∀ other, other.Regular → other = { base with path := other.path } →
    base.path.text ≠ [] → base.path.text.getLast? ≠ some '/' →
      other.path.text = base.path.text ++ ['/'] → ∀ segments, AreWords segments →
        ∀ url, below other segments = .ok url ↔ below base segments = .ok url
  /-- Words can be added at once or in turns. -/
  turns : ∀ front back, AreWords front → AreWords back →
    below base (front ++ back) = (below base front).bind fun url => below url back

section

variable {name : String} {base : Url} {segments : List String}

theorem extend_of_flat {text : List Char} (path_eq : base.path = .flat text) :
    extend name base segments = .error (.endpoint name base.text) := by
  simp [extend, Url.extend?, path_eq]

theorem extend_of_rooted (regular : base.Regular) (words : AreWords segments)
    {own : List (List Char)} (path_eq : base.path = .rooted own) :
    extend name base segments =
      .ok { base with path := .rooted (stem own ++ segments.map String.toList) } := by
  have grounded (is_file : base.kind = .file) := regular.file is_file own path_eq
  rw [extend_eq_ok_iff, extend?_eq_some_iff]
  exact ⟨own, path_eq, by rw [extended_words words.words words.ne_nil grounded]⟩

theorem exists_error_extend_iff :
    (∃ error, extend name base segments = .error error) ↔ ¬base.canBeBase = true := by
  rw [Bool.not_eq_true, ← @extend?_eq_none_iff base segments, extend]
  cases base.extend? segments <;> simp

theorem liesBelow_extend (regular : base.Regular) (words : AreWords segments) :
    LiesBelow name base segments (extend name base segments) where
  refused := exists_error_extend_iff.trans (not_congr regular.canBeBase_iff)
  error error failed := by
    rw [extend, extend_eq_error failed] at failed
    exact (Except.error.inj failed).symm
  frame url made := by
    obtain ⟨own, -, rfl⟩ := extend?_eq_some_iff.1 (extend_eq_ok_iff.1 made)
    rfl
  path url made := by
    obtain ⟨own, path_eq, -⟩ := extend?_eq_some_iff.1 (extend_eq_ok_iff.1 made)
    rw [extend_of_rooted regular words path_eq] at made
    cases made
    have some_words : segments.map String.toList ≠ [] := by simpa using words.ne_nil
    rw [path_eq, text_rooted_append, text_rooted some_words,
      text_stem (regular.segments_piece own path_eq)]

/-- Words are a stem. -/
theorem stem_append_words (words : AreWords segments) (before : List (List Char)) :
    stem (before ++ segments.map String.toList) = before ++ segments.map String.toList := by
  rcases segments.eq_nil_or_concat' with none_left | ⟨front, last, segments_eq⟩
  · exact absurd none_left words.ne_nil
  · have is_word := words.words last (by simp [segments_eq])
    rw [segments_eq, List.map_append, List.map_singleton, ← List.append_assoc,
      stem_concat is_word.ne_nil]

theorem extend_append (regular : base.Regular) {front back : List String} (first : AreWords front)
    (second : AreWords back) :
    extend name base (front ++ back) =
      (extend name base front).bind fun url => extend name url back := by
  cases path_eq : base.path with
  | flat text =>
    rw [extend_of_flat path_eq, extend_of_flat path_eq]
    rfl
  | rooted own =>
    have made := @extend_of_rooted name base front regular first own path_eq
    have further := regular.extend? (extend_eq_ok_iff.1 made)
    rw [made, extend_of_rooted regular (first.append second) path_eq, Except.bind,
      extend_of_rooted further second rfl, stem_append_words first, List.map_append,
      List.append_assoc]

theorem extend_slash (regular : base.Regular) {other : Url} (other_regular : other.Regular)
    (alike : other = { base with path := other.path }) (some_path : base.path.text ≠ [])
    (unslashed : base.path.text.getLast? ≠ some '/')
    (slashed : other.path.text = base.path.text ++ ['/']) (words : AreWords segments) (url : Url) :
    extend name other segments = .ok url ↔ extend name base segments = .ok url := by
  have both_rooted : (∃ own, other.path = .rooted own) ↔ ∃ own, base.path = .rooted own := by
    rw [regular.rooted_iff some_path, other_regular.rooted_iff (by simp [slashed]), slashed,
      List.head?_append_of_ne_nil _ some_path]
  cases path_eq : base.path with
  | flat text =>
    cases other_path_eq : other.path with
    | flat other_text => simp [extend_of_flat path_eq, extend_of_flat other_path_eq]
    | rooted others => simp [path_eq, other_path_eq] at both_rooted
  | rooted own =>
    cases other_path_eq : other.path with
    | flat other_text => simp [path_eq, other_path_eq] at both_rooted
    | rooted others =>
      rw [path_eq] at unslashed slashed
      rw [other_path_eq] at slashed
      have stem_eq := stem_eq_of_slash (regular.segments_piece own path_eq)
        (other_regular.segments_piece others other_path_eq) unslashed slashed
      rw [extend_of_rooted regular words path_eq,
        extend_of_rooted other_regular words other_path_eq, alike, stem_eq]

theorem extendsBase_extend (name : String) (regular : base.Regular) :
    ExtendsBase name (extend name) base where
  lies _ words := liesBelow_extend regular words
  slash _ other_regular alike some_path unslashed slashed _ words url :=
    extend_slash regular other_regular alike some_path unslashed slashed words url
  turns _ _ first second := extend_append regular first second

end

theorem google_regular : google.oauth.Regular ∧ google.api.Regular :=
  ⟨@regular_of_parse "https://accounts.google.com".toList _ (by decide +kernel),
    @regular_of_parse "https://www.googleapis.com".toList _ (by decide +kernel)⟩

/-- Words extend the path of any base, and touch nothing else. -/
theorem endpoint_paths_extend_base :
    (∀ text base, Url.parse text = .ok base → base.Regular) ∧
    (google.oauth.Regular ∧ google.api.Regular) ∧
    (∀ (base place : Url) segments, base.Regular → base.extend? segments = some place →
      place.Regular) ∧
    (∀ (base : Url) name value, base.Regular → (base.appendPair name value).Regular) ∧
    ∀ (base other : Url), base.Regular →
      ExtendsBase "oauth" (fun base => oauthUrl ⟨base, other⟩) base ∧
        ExtendsBase "api" (fun base => apiUrl ⟨other, base⟩) base :=
  ⟨fun _ _ => regular_of_parse, google_regular, fun _ _ _ regular => regular.extend?,
    fun _ name value regular => regular.appendPair name value,
    fun _ _ regular => ⟨extendsBase_extend "oauth" regular, extendsBase_extend "api" regular⟩⟩

/-- A base with a path of two slashes and a word, with a slash behind it and without, and one that
cannot be extended. -/
theorem endpoint_paths_extend_base_odd :
    ∃ base slashed mail url,
      Url.parse "https://me:pw@example.com:8443//a?x=1#y".toList = .ok base ∧
      Url.parse "https://me:pw@example.com:8443//a/?x=1#y".toList = .ok slashed ∧
      Url.parse "mailto:me@example.com".toList = .ok mail ∧
      oauthUrl ⟨base, mail⟩ ["o", "oauth2", "token"] = .ok url ∧
      url = { base with path := url.path } ∧ url.path.text = "//a/o/oauth2/token".toList ∧
      oauthUrl ⟨slashed, mail⟩ ["o", "oauth2", "token"] = .ok url ∧
      (oauthUrl ⟨base, mail⟩ ["o"]).bind
        (fun place => oauthUrl ⟨place, mail⟩ ["oauth2", "token"]) = .ok url ∧
      apiUrl ⟨base, mail⟩ ["plus"] = .error (.endpoint "api" "mailto:me@example.com") := by
  let base : Url := ⟨"https".toList,
    some ⟨"me".toList, some "pw".toList, some (.name "example.com".toList), some 8443⟩, false,
    .rooted ["".toList, "a".toList], some "x=1".toList, some "y".toList⟩
  let slashed : Url := { base with path := .rooted ["".toList, "a".toList, "".toList] }
  let mail : Url := ⟨"mailto".toList, none, false, .flat "me@example.com".toList, none, none⟩
  have base_eq : Url.parse "https://me:pw@example.com:8443//a?x=1#y".toList = .ok base := by
    decide +kernel
  have slashed_eq : Url.parse "https://me:pw@example.com:8443//a/?x=1#y".toList = .ok slashed := by
    decide +kernel
  have mail_eq : Url.parse "mailto:me@example.com".toList = .ok mail := by decide +kernel
  have path_eq : base.path.text = "//a".toList := rfl
  have slashed_path_eq : slashed.path.text = "//a/".toList := rfl
  obtain ⟨reads, -, -, -, extends_base⟩ := endpoint_paths_extend_base
  have regular := reads _ _ base_eq
  have mail_regular := reads _ _ mail_eq
  obtain ⟨oauth, -⟩ := extends_base base mail regular
  obtain ⟨-, api⟩ := extends_base mail base mail_regular
  have words : AreWords ["o", "oauth2", "token"] := by decide
  have lies := oauth.lies _ words
  have mail_lies := api.lies ["plus"] (by decide)
  have made : ∃ url, oauthUrl ⟨base, mail⟩ ["o", "oauth2", "token"] = .ok url := by
    cases made : oauthUrl ⟨base, mail⟩ ["o", "oauth2", "token"] with
    | error error =>
      exact absurd (regular.canBeBase_iff.1 rfl) (lies.refused.1 ⟨error, made⟩)
    | ok url => exact ⟨url, rfl⟩
  obtain ⟨url, made⟩ := made
  have unslashed : base.path.text.getLast? ≠ some '/' := by
    rw [path_eq]
    decide
  have refused : ∃ error, apiUrl ⟨base, mail⟩ ["plus"] = .error error :=
    mail_lies.refused.2 (mt mail_regular.canBeBase_iff.2 (by decide))
  obtain ⟨error, refused⟩ := refused
  refine ⟨base, slashed, mail, url, base_eq, slashed_eq, mail_eq, made, lies.frame url made,
    ?_, ?_, ?_, ?_⟩
  · rw [lies.path url made, path_eq]
    decide
  · exact (oauth.slash slashed (reads _ _ slashed_eq) rfl (by simp [path_eq]) unslashed
      (by rw [path_eq, slashed_path_eq]; rfl) _ words url).2 made
  · exact (oauth.turns ["o"] ["oauth2", "token"] (by decide) (by decide)).symm.trans made
  · rw [refused, mail_lies.error error refused]
    rfl

end Endpoints

end SignIn
