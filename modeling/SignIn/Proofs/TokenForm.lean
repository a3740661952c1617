import SignIn.Proofs.FlowSafety
import SignIn.Proofs.Url.Form

/-!
# The form for a token

What a login posts is a form of five fields.  Read back it gives each value as it is, so whatever
a value consists of, it stays in its field and adds no other.
-/

namespace SignIn

namespace Exchange

/-- The named values in the body of a form that has been posted. -/
def readForm (body : Bytes) : List (String × String) :=
  (Form.decode (Utf8.decodeLossy body)).map fun (name, value) =>
    (String.ofList name, String.ofList value)

theorem formBody_ascii (form : List (String × String)) :
    ∀ byte ∈ formBody form, byte < 0x80 := by
  intro byte member
  have visible : ∀ char ∈ Form.line form, char.toNat < 0x7F := fun char inside =>
    (Form.isLine_bounds (Form.isLine_of_mem_line inside)).2
  have bytes_eq : formBody form = _ :=
    Utf8.encode_ascii fun char inside => Nat.lt_succ_of_lt (visible char inside)
  rw [bytes_eq] at member
  obtain ⟨char, inside, rfl⟩ := List.mem_map.1 member
  have small := visible char inside
  rw [UInt8.lt_iff_toNat_lt, UInt8.toNat_ofNat', Nat.mod_eq_of_lt (by omega)]
  exact Nat.lt_succ_of_lt small

/-- A posted form is read back as it was given. -/
theorem readForm_formBody (form : List (String × String)) : readForm (formBody form) = form := by
  have body_eq : Utf8.decodeLossy (formBody form) = Form.line form := Utf8.decodeLossy_encode _
  rw [readForm, body_eq, Form.decode_line]

end Exchange

namespace Google

/-- All that a login posts is a form for a token. -/
theorem isTokenPost_of_mem_sent {registration : Registration} {message : Message}
    {answers : List Answer} {slot : Slot} {post : Http.Request}
    (member : (slot, post) ∈ ((enter registration message).play answers).sent)
    (posted : post.method = .post) : IsTokenPost registration message post := by
  have asked : post ∈ requests registration message answers := List.mem_map.2 ⟨_, member, rfl⟩
  obtain ⟨index, found⟩ := List.mem_iff_getElem?.1 asked
  match index with
  | 0 => exact (first_request_iff registration message answers post).1 found
  | 1 =>
    obtain ⟨-, token, place, target, -, -, -, rfl⟩ :=
      (second_request_iff registration message answers post).1 found
    exact absurd (show Http.Method.get = .post from posted) (by decide)
  | index + 2 =>
    rcases requests_shape registration message answers with
      none_sent | ⟨_, one_sent⟩ | ⟨_, _, two_sent⟩
    · simp [none_sent] at found
    · simp [one_sent] at found
    · simp [two_sent] at found

/-- Whatever a login posts is ASCII and holds five fields in order: who asks, where users come back
to, the secret, what is offered, and the code with which the user came. -/
theorem token_form_read_back (registration : Registration) (message : Message)
    (answers : List Answer) :
    ∀ slot post, (slot, post) ∈ ((enter registration message).play answers).sent →
      post.method = .post →
        (∀ byte ∈ post.body, byte < 0x80) ∧
        ∃ code, Callback.Carries message code ∧
          Exchange.readForm post.body = [
            ("client_id", registration.clientId),
            ("redirect_uri", registration.redirectUri),
            ("client_secret", registration.clientSecret.exposed),
            ("grant_type", "authorization_code"),
            ("code", code)] := by
  intro slot post member posted
  obtain ⟨code, place, target, carried, -, -, rfl⟩ := isTokenPost_of_mem_sent member posted
  exact ⟨Exchange.formBody_ascii _, code, carried, Exchange.readForm_formBody _⟩

/-- Signs that mean something in a form do no harm inside its values. -/
theorem token_form_read_back_signs :
    let registration : Registration :=
      ⟨"a&client_secret=b", ⟨"+% \x00ü"⟩, "https://app.example.com/cb?x=1&code=2", .google,
        by decide, by decide +kernel⟩
    let message : Message := ⟨["GET /cb?code=4%2F%26code%3D1 HTTP/1.1"], []⟩
    ∃ slot post, (slot, post) ∈ ((enter registration message).play []).sent ∧
      post.method = .post ∧ Exchange.readForm post.body = [
        ("client_id", "a&client_secret=b"),
        ("redirect_uri", "https://app.example.com/cb?x=1&code=2"),
        ("client_secret", "+% \x00ü"), ("grant_type", "authorization_code"),
        ("code", "4/&code=1")] := by
  intro registration message
  have code_eq : Callback.code message = .ok "4/&code=1" := by decide +kernel
  obtain ⟨post, post_ok⟩ := @isTokenPost_google registration message _ rfl code_eq
  have first := (first_request_iff registration message [] post).2 post_ok
  obtain ⟨⟨slot, asked⟩, member, same⟩ := List.mem_map.1 (List.mem_of_getElem? first)
  obtain rfl : asked = post := same
  have posted : asked.method = .post := by
    obtain ⟨_, _, _, _, _, _, rfl⟩ := post_ok
    rfl
  obtain ⟨-, code, carried, read_back⟩ :=
    token_form_read_back registration message [] slot asked member posted
  have same_code : code = "4/&code=1" := by
    have given := Callback.code_eq_ok_iff.2 carried
    rw [code_eq] at given
    exact (Except.ok.inj given).symm
  rw [same_code] at read_back
  exact ⟨slot, asked, member, posted, read_back⟩

end Google

end SignIn
