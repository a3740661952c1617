import SignIn.Proofs.OriginForm
import SignIn.Proofs.Url.Form

/-!
# Parameters of a callback

Named values that are put as a form into the target of a callback are read back from it: the line of
the request is cut into words, the target is resolved against the host that the headers name, and
the query of the URL is read as a form.
-/

namespace SignIn

/-! ## Forms in queries -/

namespace Url

theorem find?_toList (pairs : List (String × String)) (name : String) :
    ((pairs.map fun (name, value) => (name.toList, value.toList)).find? fun pair =>
      pair.1 == name.toList).map (fun pair => String.ofList pair.2) = pairs.lookup name := by
  induction pairs with
  | nil => rfl
  | cons pair pairs ih =>
    obtain ⟨first, value⟩ := pair
    by_cases same : first = name
    · simp [same]
    · have differs : first.toList ≠ name.toList := fun equal => same (String.toList_inj.1 equal)
      have key_differs : (name == first) = false := by simpa using Ne.symm same
      rw [List.map_cons, List.find?_cons_of_neg (by simpa using differs), ih, List.lookup_cons,
        key_differs]

/-- A parameter of a query that is a form has the first value of its name. -/
theorem parameter?_of_line {place : Url} {pairs : List (String × String)}
    (query_eq : place.query = some (Form.line pairs)) (name : String) :
    place.parameter? name = pairs.lookup name := by
  rw [parameter?, queryPairs, query_eq]
  simp only [Form.line, Form.decode_encode]
  exact find?_toList pairs name

end Url

namespace Callback

/-! ## Targets -/

/-- The second of three words is the target. -/
theorem target_of_words {message : Message} {method given version : List Char}
    {lines : List String}
    (head_eq : message.head =
      String.ofList (method ++ ' ' :: (given ++ ' ' :: version)) :: lines)
    (method_ne : method ≠ []) (method_inner : ∀ char ∈ method, Text.isBlank char = false)
    (given_ne : given ≠ []) (given_inner : ∀ char ∈ given, Text.isBlank char = false) :
    target message = .ok (String.ofList given) := by
  have filled : ∃ char ∈ given, Text.isBlank char = false := by
    obtain ⟨char, rest, rfl⟩ := List.exists_cons_of_ne_nil given_ne
    exact ⟨char, List.mem_cons_self, given_inner char List.mem_cons_self⟩
  rw [target_of_line head_eq method_ne method_inner filled, Text.firstWord_eq_self given_inner]

/-- The path to which users come back. -/
def path : List Char := "/callback".toList

/-- The target of a callback with a given query. -/
def targetWith (query : List Char) : List Char := path ++ '?' :: query

/-- The characters of a callback's target are visible and start no fragment. -/
theorem visible_of_mem_targetWith {pairs : List (String × String)} {char : Char}
    (member : char ∈ targetWith (Form.line pairs)) :
    0x20 < char.toNat ∧ char.toNat < 0x7F ∧ char ≠ '#' := by
  rcases List.mem_append.1 member with fixed | given
  · have checked := (@List.all_eq_true _
      (fun other => decide (0x20 < other.toNat ∧ other.toNat < 0x7F ∧ other ≠ '#')) path).1
        (by decide) char fixed
    exact of_decide_eq_true checked
  · rcases List.mem_cons.1 given with rfl | inside
    · decide
    · have written := Form.isLine_of_mem_line inside
      obtain ⟨above, below⟩ := Form.isLine_bounds written
      refine ⟨above, below, ?_⟩
      rintro rfl
      exact absurd written (by decide)

theorem target_of_callback {message : Message} {pairs : List (String × String)}
    {lines : List String}
    (head_eq : message.head =
      ("GET /callback?" ++ String.ofList (Form.line pairs) ++ " HTTP/1.1") :: lines) :
    target message = .ok (String.ofList (targetWith (Form.line pairs))) := by
  have front_eq : "GET /callback?".toList = ['G', 'E', 'T'] ++ ' ' :: (path ++ ['?']) := by decide
  have back_eq : " HTTP/1.1".toList = ' ' :: "HTTP/1.1".toList := by decide
  have line_eq : "GET /callback?" ++ String.ofList (Form.line pairs) ++ " HTTP/1.1" =
      String.ofList (['G', 'E', 'T'] ++ ' ' ::
        (targetWith (Form.line pairs) ++ ' ' :: "HTTP/1.1".toList)) := by
    rw [← String.toList_inj, String.toList_append, String.toList_append, front_eq, back_eq,
      targetWith]
    simp only [String.toList_ofList, List.append_assoc, List.cons_append, List.nil_append]
  have method_inner : ∀ char ∈ ['G', 'E', 'T'], Text.isBlank char = false :=
    by simp [Text.isBlank]
  rw [line_eq] at head_eq
  refine target_of_words head_eq (by simp) method_inner (by simp [targetWith]) fun char member => ?_
  obtain ⟨above, below, -⟩ := visible_of_mem_targetWith member
  exact Text.not_isBlank_of_visible above below

/-! ## Resolution -/

/-- A callback that is resolved against the root of a host keeps its query. -/
theorem query_of_join {host : String} {root : Url} (base_eq : base host = .ok root)
    (pairs : List (String × String)) :
    ∃ place, root.join (targetWith (Form.line pairs)) = .ok place ∧
      place.query = some (Form.line pairs) := by
  obtain ⟨-, scheme_eq, own, path_eq⟩ := base_eq_ok base_eq
  let rest := "callback".toList ++ '?' :: Form.line pairs
  have given_eq : targetWith (Form.line pairs) = '/' :: rest := rfl
  have rest_inner : ∀ char ∈ rest, Url.isMargin char = false := by
    intro char member
    obtain ⟨above, -, -⟩ := @visible_of_mem_targetWith pairs char (List.mem_cons_of_mem _ member)
    exact decide_eq_false (Nat.not_le_of_lt above)
  have unbroken : ∀ char ∈ rest, Url.isBreak char = false := fun char member =>
    Url.isBreak_of_not_isMargin (rest_inner char member)
  have single : ∀ char, rest.head? = some char → Url.isSlash .web char = false := by
    intro char first
    cases first
    decide
  have no_fragment : '#' ∉ targetWith (Form.line pairs) := fun member =>
    (visible_of_mem_targetWith member).2.2 rfl
  have parts_eq : Url.parts ('/' :: rest) = ⟨path, some (Form.line pairs), none⟩ :=
    Url.parts_query no_fragment (by decide)
  have kind_eq : root.kind = .web := by
    rw [Url.kind, scheme_eq]
    decide
  have joined := Url.join_single_slash path_eq unbroken single
  rw [Url.cleanEnd_eq_self rest_inner, parts_eq] at joined
  refine ⟨_, joined, ?_⟩
  have kept : Percent.encode Percent.inSpecialQuery (Form.line pairs) = Form.line pairs := by
    refine Percent.encode_eq_self fun char member => ?_
    have written := Form.isLine_of_mem_line member
    have visible := Form.isLine_bounds written
    exact ⟨by omega, Form.not_inSpecialQuery_of_isLine written⟩
  simp only [Url.withSegments, Url.Parts.encodedQuery, kind_eq, Option.map_some]
  exact congrArg some kept

/-- The local machine has a root. -/
theorem base_default : ∃ root, base defaultHost = .ok root :=
  exists_of_isOk (by decide +kernel)

/-- The host of a message has a root if it is not given, or if the one that is given has. -/
theorem base_of_headers {message : Message} {headers : Headers}
    (headers_eq : message.headers = .ok headers)
    (host_ok : ∀ host, (headers.get "host").head? = some host →
      ∃ root, Url.ofString ("http://" ++ host ++ "/") = .ok root) :
    ∃ host root, message.singleOr "host" defaultHost = .ok host ∧ base host = .ok root := by
  have single_eq : message.singleOr "host" defaultHost =
      .ok (((headers.get "host").head?).getD defaultHost) := by
    rw [Message.singleOr, headers_eq]
    rfl
  cases found : (headers.get "host").head? with
  | none =>
    obtain ⟨root, root_eq⟩ := base_default
    rw [found] at single_eq
    exact ⟨defaultHost, root, single_eq, root_eq⟩
  | some host =>
    obtain ⟨root, read_eq⟩ := host_ok host found
    rw [found] at single_eq
    exact ⟨host, root, single_eq, base_of_ofString read_eq⟩

/-- The URL of a callback has the callback's form as its query. -/
theorem url_of_callback {message : Message} {pairs : List (String × String)}
    {lines : List String} {headers : Headers}
    (head_eq : message.head =
      ("GET /callback?" ++ String.ofList (Form.line pairs) ++ " HTTP/1.1") :: lines)
    (headers_eq : message.headers = .ok headers)
    (host_ok : ∀ host, (headers.get "host").head? = some host →
      ∃ root, Url.ofString ("http://" ++ host ++ "/") = .ok root) :
    ∃ place, url message = .ok place ∧ place.query = some (Form.line pairs) := by
  obtain ⟨host, root, host_eq, base_eq⟩ := base_of_headers headers_eq host_ok
  obtain ⟨place, join_eq, query_eq⟩ := query_of_join base_eq pairs
  have resolved : url message = resolve message (String.ofList (targetWith (Form.line pairs))) :=
    url_of_slash (target_of_callback head_eq) (String.toList_ofList)
  refine ⟨place, ?_, query_eq⟩
  rw [resolved]
  simp only [resolve, host_eq, base_eq, String.toList_ofList, join_eq]

/-! ## Codes -/

theorem codeOf_of_absent {place : Url}
    (absent : place.parameter? "code" = none ∨ place.parameter? "code" = some "") :
    codeOf place = .error (.badRequest (missingCodeReason (place.parameter? "error"))) := by
  unfold codeOf
  rcases absent with absent | empty
  · rw [absent]
  · simp only [empty]

/-- Named values that are put as a form into the target of a callback are its parameters, the first
value of each name counting.  The code is the parameter of that name unless it is empty; without one
the callback is refused, and an error that it names is told as it is. -/
theorem parameters_read_back {message : Message} {pairs : List (String × String)}
    {lines : List String} {headers : Headers}
    (head_eq : message.head =
      ("GET /callback?" ++ String.ofList (Form.line pairs) ++ " HTTP/1.1") :: lines)
    (headers_eq : message.headers = .ok headers)
    (host_ok : ∀ host, (headers.get "host").head? = some host →
      ∃ root, Url.ofString ("http://" ++ host ++ "/") = .ok root) :
    (∃ place, url message = .ok place ∧
      ∀ name, place.parameter? name = pairs.lookup name) ∧
    (∀ given, pairs.lookup "code" = some given → given ≠ "" → code message = .ok given) ∧
    (pairs.lookup "code" = none ∨ pairs.lookup "code" = some "" →
      (pairs.lookup "error" = none → code message =
        .error (.badRequest "code is not provided by google, probably some mistake")) ∧
      ∀ error, pairs.lookup "error" = some error → code message =
        .error (.badRequest
          ("code is not provided by google, probably some mistake (error: " ++ error ++ ")"))) := by
  obtain ⟨place, url_eq, query_eq⟩ := url_of_callback head_eq headers_eq host_ok
  have parameters := Url.parameter?_of_line query_eq
  have code_eq : code message = codeOf place := by
    rw [code, url_eq]
  rw [code_eq]
  refine ⟨⟨place, url_eq, parameters⟩, fun given found given_ne => ?_, fun missing => ?_⟩
  · exact codeOf_eq_ok_iff.2 ⟨(parameters "code").trans found, given_ne⟩
  · rw [← parameters] at missing
    rw [codeOf_of_absent missing, parameters]
    refine ⟨fun silent => by rw [silent]; rfl, fun error told => ?_⟩
    rw [told, missingCodeReason, missingCode]
    have text_eq : "code is not provided by google, probably some mistake" ++ " (error: " =
        "code is not provided by google, probably some mistake (error: " := by decide
    rw [text_eq]

/-- Repeated and empty names, signs of forms and of URLs, and an error beside a code. -/
theorem parameters_read_back_signs :
    let pairs := [("state", "ü &=+%?#/\x00"), ("code", "4/a b"), ("code", "second"), ("", "x"),
      ("error", "denied")]
    let message : Message :=
      ⟨["GET /callback?" ++ String.ofList (Form.line pairs) ++ " HTTP/1.1",
        "Host: app.example.com:8080"], []⟩
    (∃ place, url message = .ok place ∧ place.parameter? "state" = some "ü &=+%?#/\x00" ∧
      place.parameter? "" = some "x" ∧ place.parameter? "missing" = none) ∧
    code message = .ok "4/a b" := by
  intro pairs message
  have headers_eq : ∃ headers, message.headers = .ok headers ∧
      (headers.get "host").head? = some "app.example.com:8080" := ⟨_, rfl, by decide +kernel⟩
  obtain ⟨headers, headers_eq, host_eq⟩ := headers_eq
  have root_eq : ∃ root, Url.ofString ("http://" ++ "app.example.com:8080" ++ "/") = .ok root :=
    exists_of_isOk (by decide +kernel)
  obtain ⟨⟨place, url_eq, parameters⟩, code_ok, -⟩ :=
    @parameters_read_back message pairs _ headers rfl headers_eq fun host found => by
      rw [host_eq] at found
      cases found
      exact root_eq
  refine ⟨⟨place, url_eq, parameters _, parameters _, parameters _⟩, ?_⟩
  exact code_ok "4/a b" rfl (by decide)

end Callback

end SignIn
