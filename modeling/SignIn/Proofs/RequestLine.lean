import SignIn.Proofs.FieldLines
import SignIn.Proofs.Parameters
import SignIn.Proofs.Url.Queries

/-!
# Request lines

The target of a request is read whole if it holds no white space at all; behind white space of any
kind, ASCII or not, the rest of a target is lost.  A target that is read whole means what it means
as a URL or as a reference, and all named values in its query are the parameters of the callback.
-/

namespace SignIn

namespace Callback

/-! ## Lines -/

/-- A non-empty text without spaces and controls of ASCII. -/
structure IsVisible (text : String) : Prop where
  /-- The text is not empty. -/
  filled : text ≠ ""
  /-- Its characters are visible or beyond ASCII. -/
  bounds : ∀ char ∈ text.toList, 0x20 < char.toNat ∧ char.toNat ≠ 0x7F

/-- The first line of a message consists of three visible texts between single spaces. -/
structure StartsWith (message : Message) (method given version : String) : Prop where
  /-- A single space stands on either side of the second text. -/
  line : message.head.head? = some (method ++ " " ++ given ++ " " ++ version)
  /-- The first text is visible. -/
  method : IsVisible method
  /-- The second text is visible. -/
  given : IsVisible given
  /-- The third text is visible. -/
  version : IsVisible version

theorem IsVisible.not_isMargin {text : String} (visible : IsVisible text) :
    ∀ char ∈ text.toList, Url.isMargin char = false := fun char member =>
  decide_eq_false (Nat.not_le_of_lt (visible.bounds char member).1)

theorem IsVisible.toList_ne_nil {text : String} (visible : IsVisible text) : text.toList ≠ [] :=
  fun empty => visible.filled (String.toList_eq_nil_iff.1 empty)

theorem IsVisible.firstWord {text : String} (visible : IsVisible text)
    (filled : ∃ char ∈ text.toList, Text.isBlank char = false) :
    IsVisible (String.ofList (Text.firstWord text.toList)) where
  filled := by simpa using Text.firstWord_ne_nil filled
  bounds char member := by
    rw [String.toList_ofList] at member
    exact visible.bounds char (Text.mem_of_mem_firstWord member)

theorem StartsWith.head_eq {message : Message} {method given version : String}
    (starts : StartsWith message method given version) : ∃ lines, message.head =
      String.ofList (method.toList ++ ' ' :: (given.toList ++ ' ' :: version.toList)) :: lines := by
  obtain ⟨lines, head_eq⟩ := List.head?_eq_some_iff.1 starts.line
  refine ⟨lines, head_eq.trans (congrArg (· :: lines) ?_)⟩
  rw [← String.toList_inj]
  simp

/-- The target is the first word behind the method. -/
theorem StartsWith.target_eq {message : Message} {method given version : String}
    (starts : StartsWith message method given version)
    (plain : ∀ char ∈ method.toList, Text.isBlank char = false)
    (filled : ∃ char ∈ given.toList, Text.isBlank char = false) :
    target message = .ok (String.ofList (Text.firstWord given.toList)) := by
  obtain ⟨lines, head_eq⟩ := starts.head_eq
  exact target_of_line head_eq starts.method.toList_ne_nil plain filled

theorem visible_method (method : Http.Method) : IsVisible (String.ofList method.chars) := by
  obtain ⟨chars_ne, tokens⟩ := Http.isToken_iff.1 method.token
  refine ⟨by simpa using chars_ne, fun char member => ?_⟩
  rw [String.toList_ofList] at member
  have bounds := Http.isTokenChar_bounds (tokens char member)
  omega

theorem not_isBlank_of_method {method : Http.Method} :
    ∀ char ∈ (String.ofList method.chars).toList, Text.isBlank char = false := by
  intro char member
  rw [String.toList_ofList] at member
  exact Http.not_isBlank_of_isTokenChar ((Http.isToken_iff.1 method.token).2 char member)

theorem visible_version (version : Http.Version) : IsVisible version.text := by
  cases version <;> exact ⟨by decide, by simp [Http.Version.text]⟩

/-- A request starts with its method, its target and its version. -/
theorem startsWith_of_request {request : Http.Request} (visible : IsVisible request.target.text) :
    StartsWith request.message (String.ofList request.method.chars) request.target.text
      request.version.text where
  line := rfl
  method := visible_method request.method
  given := visible
  version := visible_version request.version

/-! ## Readings -/

/-- A request is for what the whole of a text means. -/
structure ReadsWhole (message : Message) (given : String) : Prop where
  /-- The text is the target. -/
  target : Callback.target message = .ok given
  /-- A text that is a URL stands for itself. -/
  absolute : ∀ place, Url.ofString given = .ok place → url message = .ok place
  /-- Any other text is resolved against the root of the host, if both can be read. -/
  relative : ∀ fault, Url.ofString given = .error fault → ∀ place, url message = .ok place ↔
    ∃ host root, message.singleOr "host" "localhost" = .ok host ∧
      Url.ofString ("http://" ++ host ++ "/") = .ok root ∧ root.join given.toList = .ok place
  /-- Nothing but the message is blamed. -/
  malformed : ∀ error, url message = .error error → ∃ reason, error = .malformedMessage reason
  /-- No named value in the query is lost or cut short. -/
  pairs : ∀ query, Url.HoldsQuery given.toList query → ∀ place, url message = .ok place →
    place.queryPairs = Form.decode query
  /-- The code is the first value of that name, unless it is empty. -/
  code : ∀ query, Url.HoldsQuery given.toList query → ∀ place, url message = .ok place →
    ∀ value, Callback.code message = .ok value ↔
      (Form.decode query).lookup "code".toList = some value.toList ∧ value ≠ ""

theorem resolve_eq_ok_iff {message : Message} {given : String} {place : Url} :
    resolve message given = .ok place ↔
      ∃ host root, message.singleOr "host" "localhost" = .ok host ∧
        Url.ofString ("http://" ++ host ++ "/") = .ok root ∧
          root.join given.toList = .ok place := by
  constructor
  · intro resolved
    obtain ⟨host, root, host_eq, root_eq, join_eq⟩ := resolve_eq_ok resolved
    exact ⟨host, root, host_eq, (base_eq_ok root_eq).1, join_eq⟩
  · rintro ⟨host, root, host_eq, root_eq, join_eq⟩
    simp only [resolve, defaultHost, host_eq, base_of_ofString root_eq, join_eq]

/-- The named values in the query of a visible target are those of the URL. -/
theorem queryPairs_of_target {message : Message} {given : String}
    (target_eq : target message = .ok given) (visible : IsVisible given) {query : List Char}
    (holds : Url.HoldsQuery given.toList query) {place : Url} (url_eq : url message = .ok place) :
    place.queryPairs = Form.decode query := by
  simp only [url, target_eq] at url_eq
  split at url_eq
  · rename_i whole parse_eq
    cases url_eq
    exact Url.queryPairs_of_parse visible.not_isMargin holds parse_eq
  · obtain ⟨host, root, -, base_eq, join_eq⟩ := resolve_eq_ok url_eq
    obtain ⟨-, -, own, path_eq⟩ := base_eq_ok base_eq
    exact Url.queryPairs_of_join visible.not_isMargin holds path_eq join_eq

theorem readsWhole_of_target {message : Message} {given : String}
    (target_eq : target message = .ok given) (visible : IsVisible given) :
    ReadsWhole message given where
  target := target_eq
  absolute place read_eq := by
    simp only [url, target_eq, read_eq]
  relative fault refused place := by
    simp only [url, target_eq, refused]
    exact resolve_eq_ok_iff
  malformed error failed := isMalformed_of_url failed
  pairs query holds place url_eq := queryPairs_of_target target_eq visible holds url_eq
  code query holds place url_eq value := by
    rw [← queryPairs_of_target target_eq visible holds url_eq]
    have code_eq : code message = codeOf place := by
      rw [code, url_eq]
    rw [code_eq, codeOf_eq_ok_iff, Url.parameter?_eq_lookup, Option.map_eq_some_iff]
    simp only [← String.toList_inj, String.toList_ofList, exists_eq_right]

section

variable {message : Message} {method given version : String}
  (starts : StartsWith message method given version)
  (plain : ∀ char ∈ method.toList, Text.isBlank char = false)
include starts plain

theorem StartsWith.readsWhole_firstWord
    (filled : ∃ char ∈ given.toList, Text.isBlank char = false) :
    ReadsWhole message (String.ofList (Text.firstWord given.toList)) :=
  readsWhole_of_target (starts.target_eq plain filled) (starts.given.firstWord filled)

theorem StartsWith.readsWhole_iff :
    ReadsWhole message given ↔ ∀ char ∈ given.toList, Text.isBlank char = false := by
  refine ⟨fun whole => not_isBlank_of_target whole.target, fun inner => ?_⟩
  have filled : ∃ char ∈ given.toList, Text.isBlank char = false :=
    (List.exists_mem_of_ne_nil _ starts.given.toList_ne_nil).imp fun char member =>
      ⟨member, inner char member⟩
  have first_eq : String.ofList (Text.firstWord given.toList) = given := by
    rw [Text.firstWord_eq_self inner, String.ofList_toList]
  exact first_eq ▸ starts.readsWhole_firstWord plain filled

end

/-- The target of a request is the second word of its first line.  Behind a method without white
space it is read whole exactly if it holds none either, and else the request is for what stands in
front of the white space.  The method of a request that has been built holds none. -/
theorem target_is_second_word {message : Message} {method given version : String}
    (starts : StartsWith message method given version) :
    (ReadsWhole message given ↔
      (Text.words (method ++ " " ++ given ++ " " ++ version).toList)[1]? = some given.toList) ∧
    ((∀ char ∈ method.toList, Text.isBlank char = false) →
      (ReadsWhole message given ↔ ∀ char ∈ given.toList, Text.isBlank char = false) ∧
      ((∃ char ∈ given.toList, Text.isBlank char = false) →
        ReadsWhole message (String.ofList (Text.firstWord given.toList)))) ∧
    ∀ request : Http.Request, request.target.text = given →
      (ReadsWhole request.message given ↔ ∀ char ∈ given.toList, Text.isBlank char = false) := by
  refine ⟨?_, fun plain => ⟨starts.readsWhole_iff plain, starts.readsWhole_firstWord plain⟩, ?_⟩
  · obtain ⟨lines, head_eq⟩ := List.head?_eq_some_iff.1 starts.line
    rw [← target_eq_ok_iff head_eq]
    exact ⟨ReadsWhole.target, fun target_eq => readsWhole_of_target target_eq starts.given⟩
  · rintro request rfl
    exact (startsWith_of_request starts.given).readsWhole_iff not_isBlank_of_method

/-- A target beyond ASCII is read whole, and so is the code in it. -/
theorem target_is_second_word_umlaut :
    let given := "/cb?code=4/ü&state=x"
    let message : Message := ⟨["GET /cb?code=4/ü&state=x HTTP/1.1", "Host: example.com"], []⟩
    let request : Http.Request :=
      ⟨.get, ⟨none, [], "/cb".toList, some "code=4/ü&state=x".toList⟩, .http11, [], []⟩
    StartsWith message "GET" given "HTTP/1.1" ∧ ReadsWhole message given ∧
      code message = .ok "4/ü" ∧ request.target.text = given ∧
      ReadsWhole request.message given := by
  intro given message request
  have starts : StartsWith message "GET" given "HTTP/1.1" :=
    ⟨rfl, ⟨by decide, by simp⟩, ⟨by decide, by simp [given]⟩, ⟨by decide, by simp⟩⟩
  have plain : ∀ char ∈ "GET".toList, Text.isBlank char = false := by simp [Text.isBlank]
  have inner : ∀ char ∈ given.toList, Text.isBlank char = false := by simp [given, Text.isBlank]
  obtain ⟨-, of_line, of_request⟩ := target_is_second_word starts
  have whole := (of_line plain).1.2 inner
  have given_eq : given.toList = "/cb".toList ++ '?' :: "code=4/ü&state=x".toList := by decide
  have holds : Url.HoldsQuery given.toList "code=4/ü&state=x".toList :=
    given_eq ▸ .last (by decide) (by decide) (by decide)
  obtain ⟨place, url_eq⟩ : ∃ place, url message = .ok place :=
    exists_of_isOk (by decide +kernel)
  exact ⟨starts, whole, (whole.code _ holds place url_eq "4/ü").2 ⟨by decide +kernel, by decide⟩,
    rfl, (of_request request rfl).2 inner⟩

/-- Behind a space beyond ASCII, the rest of a target is lost, and with it a part of the code. -/
theorem target_is_second_word_cut :
    let given := "https://app.example.com/cb?code=4/abc\u00a0def"
    let message : Message := ⟨["GET https://app.example.com/cb?code=4/abc\u00a0def HTTP/1.1"], []⟩
    StartsWith message "GET" given "HTTP/1.1" ∧ ¬ReadsWhole message given ∧
      ∃ whole place, Url.ofString given = .ok whole ∧ url message = .ok place ∧ place ≠ whole ∧
        whole.parameter? "code" = some "4/abc\u00a0def" ∧ code message = .ok "4/abc" := by
  intro given message
  let machine : Authority := ⟨[], none, some (.name "app.example.com".toList), none⟩
  let whole : Url := ⟨"https".toList, some machine, false, .rooted ["cb".toList],
    some "code=4/abc%C2%A0def".toList, none⟩
  let place : Url := ⟨"https".toList, some machine, false, .rooted ["cb".toList],
    some "code=4/abc".toList, none⟩
  have starts : StartsWith message "GET" given "HTTP/1.1" :=
    ⟨rfl, ⟨by decide, by simp⟩, ⟨by decide, by simp [given]⟩, ⟨by decide, by simp⟩⟩
  have whole_eq : Url.ofString given = .ok whole := by decide +kernel
  have place_eq : url message = .ok place := by decide +kernel
  have differs : place ≠ whole := by decide
  have cut : ¬ReadsWhole message given := fun reads =>
    differs (Except.ok.inj (place_eq.symm.trans (reads.absolute whole whole_eq)))
  exact ⟨starts, cut, whole, place, whole_eq, place_eq, differs, by decide +kernel,
    by decide +kernel⟩

end Callback

end SignIn
