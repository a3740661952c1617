import SignIn.Proofs.Failures
import SignIn.Proofs.Json.Values
import SignIn.Proofs.TokenAnswers

/-!
# Malformed bodies

A body is read up to the end of its first value, so whether it is refused depends on that value
alone.  A body that starts with no value is always refused, and one that starts with a value that
can be read is not, whatever comes after it.
-/

namespace SignIn

namespace Json

variable {α : Type} {Str : Bytes → Prop} {reader : Reader α} {body : Bytes} {content : α}

/-- A body starts with a value of the grammar from which, taken alone, a content is read. -/
def Begins (reader : Reader α) (Str : Bytes → Prop) (body : Bytes) (content : α) : Prop :=
  ∃ text, text <+: body ∧ Derives Str .value text ∧
    ∃ last, reader text = .ok (content, last) ∧ last.val = []

/-- What comes after the first value does not matter. -/
theorem begins_iff (consumes : Consumes reader (Derives Str .value) Anything) :
    Begins reader Str body content ↔ ∃ last, reader body = .ok (content, last) := by
  constructor
  · rintro ⟨text, ⟨rest, body_eq⟩, _, last, read_eq, last_eq⟩
    obtain ⟨whole, _, text_eq, taken⟩ := consumes _ _ _ read_eq
    rw [last_eq, List.append_nil] at text_eq
    subst text_eq
    obtain ⟨final, final_eq, _⟩ := taken body rest trivial body_eq.symm
    exact ⟨final, final_eq⟩
  · rintro ⟨last, read_eq⟩
    obtain ⟨text, text_ok, body_eq, taken⟩ := consumes _ _ _ read_eq
    exact ⟨text, ⟨last.val, body_eq.symm⟩, text_ok, taken text [] trivial (by simp)⟩

/-- Behind its first value a document has nothing but blanks. -/
theorem IsDocument.isBlank {text rest : Bytes} (document : IsDocument (text ++ rest))
    (text_ok : Derives IsString .value text) (ends : EndsNumber rest) : IsBlank rest := by
  obtain ⟨whole, blank, whole_ok, blank_ok, bytes_eq⟩ := document
  have blank_ends : EndsNumber blank := by simpa using blank_ok.endsNumber (avoids_nil goesOn)
  have whole_string := whole_ok.mono fun _ ok => ok.1
  obtain ⟨last, skip_eq, last_eq⟩ := skip_complete whole_string blank_ends bytes_eq
  obtain ⟨again, again_eq, rest_eq⟩ := skip_complete text_ok ends rfl
  rw [skip_eq] at again_eq
  cases again_eq
  rw [← rest_eq, last_eq]
  exact blank_ok

end Json

namespace Exchange

theorem consumes_tokenRecord :
    Json.Consumes tokenRecord.read (Json.Derives Json.IsString .value) Json.Anything := by
  refine Json.consumes_record fun field member draft => ?_
  rw [List.mem_singleton.1 member]
  exact ((Json.consumes_text fun _ text_ok => text_ok.1).map _).map _

end Exchange

namespace Google

/-- A token is read from an answer of success. -/
theorem tokenIn_firstReply {answers : List Answer} {metadata : Option Metadata}
    {response : Http.Response} (answered : answers[0]? = some ⟨metadata, .ok response⟩)
    (accepted : response.status.code = 200) :
    tokenIn (firstReply answers) =
      Exchange.readBody .token Exchange.tokenRecord.read response.body := by
  have outcome_eq := firstReply_outcome_iff.2 ⟨metadata, answered⟩
  simp only [tokenIn, outcome_eq, Exchange.tokenOf, Http.Status.eq_ok_iff.2 accepted, if_true]

/-- Fields are read from any answer. -/
theorem fieldsIn_secondReply {answers : List Answer} {metadata : Option Metadata}
    {response : Http.Response} (answered : answers[1]? = some ⟨metadata, .ok response⟩) :
    fieldsIn (secondReply answers) = Exchange.readBody .profile Json.object response.body := by
  have outcome_eq : (secondReply answers).outcome = .ok response := by
    rw [secondReply, firstReply_outcome_iff, List.getElem?_tail]
    exact ⟨metadata, answered⟩
  simp only [fieldsIn, outcome_eq]

section

variable (registration : Registration) (message : Message) (answers : List Answer)

theorem token_body_refused_iff {metadata : Option Metadata} {response : Http.Response}
    (answered : answers[0]? = some ⟨metadata, .ok response⟩)
    (accepted : response.status.code = 200)
    (asked : ((enter registration message).play answers).sent ≠ []) :
    let run := (enter registration message).play answers
    (∃ failure, run.result = .error (.provider (.parse .token failure))) ∧ run.sent.length = 1 ↔
      ¬∃ token, Json.Begins Exchange.tokenRecord.read Json.IsString response.body token := by
  have read_eq := tokenIn_firstReply answered accepted
  have way := course registration message answers
  simp only [Json.begins_iff Exchange.consumes_tokenRecord, ← @Exchange.readBody_eq_ok_iff _ .token,
    ← read_eq]
  generalize (enter registration message).play answers = run at way asked
  cases way with
  | noCode | notAsked => exact absurd rfl asked
  | noToken _ _ token_eq =>
    rw [read_eq] at token_eq
    obtain ⟨failure, _, rfl⟩ := Exchange.readBody_eq_error_iff.1 token_eq
    simp [read_eq, token_eq]
  | notFetched _ _ token_eq get_eq =>
    obtain ⟨cause, rfl⟩ := profileRequest_error get_eq
    simp [token_eq]
  | noFields _ _ token_eq => simp [token_eq]
  | parsed _ _ token_eq => simp [token_eq]

theorem profile_body_refused_iff {metadata : Option Metadata} {response : Http.Response}
    (answered : answers[1]? = some ⟨metadata, .ok response⟩)
    (asked : ((enter registration message).play answers).sent.length = 2) :
    let run := (enter registration message).play answers
    (∃ failure, run.result = .error (.provider (.parse .profile failure))) ↔
      ∀ fields, Json.Begins Json.object Json.IsText response.body fields →
        fields.get? "error" = none ∧ ∃ failure, Profile.read fields = .error failure := by
  have read_eq := fieldsIn_secondReply answered
  have way := course registration message answers
  simp only [Json.begins_iff Json.consumes_object, ← @Exchange.readBody_eq_ok_iff _ .profile,
    ← read_eq]
  generalize (enter registration message).play answers = run at way asked
  cases way with
  | noCode | notAsked | noToken | notFetched => cases asked
  | noFields _ _ _ _ fields_eq =>
    rw [read_eq] at fields_eq
    obtain ⟨failure, _, rfl⟩ := Exchange.readBody_eq_error_iff.1 fields_eq
    simp [read_eq, fields_eq]
  | parsed _ _ _ _ fields_eq => simp [fields_eq, Profile.identityOf_eq_parse_iff]

/-- A body is refused exactly if it does not start with a value that can be read.  For a token this
ends the login after the first request; fields that can be read may still be ill-typed. -/
theorem body_refused_iff :
    let run := (enter registration message).play answers
    (∀ metadata response, answers[0]? = some ⟨metadata, .ok response⟩ →
      response.status.code = 200 → run.sent ≠ [] →
      ((∃ failure, run.result = .error (.provider (.parse .token failure))) ∧
          run.sent.length = 1 ↔
        ¬∃ token, Json.Begins Exchange.tokenRecord.read Json.IsString response.body token)) ∧
    (∀ metadata response, answers[1]? = some ⟨metadata, .ok response⟩ → run.sent.length = 2 →
      ((∃ failure, run.result = .error (.provider (.parse .profile failure))) ↔
        ∀ fields, Json.Begins Json.object Json.IsText response.body fields →
          fields.get? "error" = none ∧ ∃ failure, Profile.read fields = .error failure)) :=
  ⟨fun _ _ answered accepted asked =>
      token_body_refused_iff registration message answers answered accepted asked,
    fun _ _ answered asked => profile_body_refused_iff registration message answers answered asked⟩

end

/-- A body that is no JSON ends a login. -/
theorem body_refused_letter :
    let run := (enter exampleRegistration exampleCallback).play
      [⟨none, .ok ⟨.http11, .ok, [], [0x78]⟩⟩]
    (∃ failure, run.result = .error (.provider (.parse .token failure))) ∧ run.sent.length = 1 := by
  intro run
  have asked : run.sent ≠ [] := asked_example _
  refine ((body_refused_iff exampleRegistration exampleCallback _).1 _ _ rfl rfl asked).2 ?_
  rintro ⟨token, begins⟩
  obtain ⟨last, read_eq⟩ := (Json.begins_iff Exchange.consumes_tokenRecord).1 begins
  cases read_eq

/-- A token is accepted from a body that goes on after its end, and the profile is asked for. -/
theorem body_refused_not_behind :
    let body := Utf8.encode "\x7b\"access_token\":\"T1\"\x7d x".toList
    let run := (enter exampleRegistration exampleCallback).play
      [⟨none, .ok ⟨.http11, .ok, [], body⟩⟩]
    ¬Json.IsDocument body ∧ run.sent.length = 2 := by
  intro body run
  have body_eq : body = Exchange.tokenBody ⟨"T1"⟩ ++ [0x20, 0x78] := by decide
  have ends : Json.EndsNumber [0x20, 0x78] := Json.avoids_cons.2 rfl
  constructor
  · intro document
    rw [body_eq] at document
    have blank_ok := document.isBlank (Exchange.spells_tokenBody _).derives ends
    exact absurd (blank_ok 0x78 (by decide)) (by decide)
  · obtain ⟨last, read_eq, -⟩ := Exchange.read_tokenBody ends body_eq
    exact length_sent_example ⟨none, ⟨.http11, .ok, [], body⟩, last, rfl, rfl, read_eq⟩

end Google

end SignIn
