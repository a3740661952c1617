import SignIn.Proofs.AccessToken
import SignIn.Proofs.TokenAnswers

/-!
# The members of a token answer

An access token is read from an object exactly if one member is called like it and holds a text.
What else the object holds, and in which order, does not matter to a login.
-/

namespace SignIn

open Json (Tree)

namespace Google

/-! ## Logins -/

/-- A login refuses the body of a token answer: it ends, and asks for nothing else. -/
def RefusesTokenBody (run : Run (Except Error Identity)) : Prop :=
  (∃ failure, run.result = .error (.provider (.parse .token failure))) ∧ run.sent.length = 1

section

variable {members others : List (String × Tree)} {response other : Http.Response}

theorem yields_firstReply (spelled : Json.SpellsDocument (.object members) response.body)
    (accepted : response.status.code = 200) (metadata : Option Metadata) (later : List Answer) :
    Exchange.Yields (Exchange.tokenTold? members)
      (tokenIn (firstReply (⟨metadata, .ok response⟩ :: later))) :=
  Exchange.yields_tokenOf spelled accepted _

/-- Without a token a login that has asked for one ends there. -/
theorem refuses_of_untold (spelled : Json.SpellsDocument (.object members) response.body)
    (accepted : response.status.code = 200) (untold : Exchange.tokenTold? members = none)
    (metadata : Option Metadata) (later : List Answer) (registration : Registration)
    (message : Message)
    (asked : ((enter registration message).play (⟨metadata, .ok response⟩ :: later)).sent ≠ []) :
    RefusesTokenBody ((enter registration message).play (⟨metadata, .ok response⟩ :: later)) := by
  have yields := yields_firstReply spelled accepted metadata later
  rw [untold] at yields
  obtain ⟨failure, failed⟩ := yields
  rw [play_enter] at asked ⊢
  cases code_eq : Callback.code message with
  | error error => exact absurd (by rw [code_eq]; rfl) asked
  | ok code =>
    cases post_eq : tokenRequest registration code with
    | error error => exact absurd (by simp only [code_eq, post_eq]; rfl) asked
    | ok post =>
      simp only [post_eq, failed]
      exact ⟨⟨failure, rfl⟩, rfl⟩

/-- Two logins report the same and send the same, and end in the same way, or else both of them
refuse the body of a token answer. -/
structure FareAlike (run other : Run (Except Error Identity)) : Prop where
  /-- They report the same. -/
  events_eq : run.events = other.events
  /-- They send the same. -/
  sent_eq : run.sent = other.sent
  /-- They end in the same way. -/
  ends : run.result = other.result ∨ RefusesTokenBody run ∧ RefusesTokenBody other

/-- Two answers that tell the same token, or none, make no difference to a login. -/
theorem fareAlike {told : Option Secret} {answer other_answer : Answer} {later : List Answer}
    (yields : Exchange.Yields told (tokenIn (firstReply (answer :: later))))
    (other_yields : Exchange.Yields told (tokenIn (firstReply (other_answer :: later))))
    (registration : Registration) (message : Message) :
    FareAlike ((enter registration message).play (answer :: later))
      ((enter registration message).play (other_answer :: later)) := by
  rw [play_enter, play_enter]
  cases Callback.code message with
  | error error => exact ⟨rfl, rfl, .inl rfl⟩
  | ok code =>
    cases post_eq : tokenRequest registration code with
    | error error =>
      simp only [post_eq]
      exact ⟨rfl, rfl, .inl rfl⟩
    | ok post =>
      simp only [post_eq]
      cases told with
      | none =>
        obtain ⟨failure, failed⟩ := yields
        obtain ⟨other_failure, other_failed⟩ := other_yields
        rw [failed, other_failed]
        exact ⟨rfl, rfl, .inr ⟨⟨⟨failure, rfl⟩, rfl⟩, ⟨other_failure, rfl⟩, rfl⟩⟩
      | some token =>
        have given : tokenIn (firstReply (answer :: later)) = .ok token := yields
        have other_given : tokenIn (firstReply (other_answer :: later)) = .ok token := other_yields
        rw [given, other_given]
        exact ⟨rfl, rfl, .inl rfl⟩

/-- A token is taken from the answer to a token request exactly if one member of its object is
called like it and holds it as a text.  Otherwise the body is refused, and the login asks for
nothing else.  So neither the order of the members nor what else there is makes a difference. -/
theorem token_told_once (spelled : Json.SpellsDocument (.object members) response.body)
    (accepted : response.status.code = 200) (metadata : Option Metadata) :
    (∀ token, Exchange.tokenOf response metadata = .ok ⟨token⟩ ↔
      members.filter (fun member => member.1 == "access_token") =
        [("access_token", .string token)]) ∧
    ((¬∃ token, members.filter (fun member => member.1 == "access_token") =
        [("access_token", .string token)]) →
      (∃ failure, Exchange.tokenOf response metadata =
        .error (.provider (.parse .token failure))) ∧
      ∀ registration message later,
        let run := (enter registration message).play (⟨metadata, .ok response⟩ :: later)
        run.sent ≠ [] → RefusesTokenBody run) ∧
    (Json.SpellsDocument (.object others) other.body → other.status.code = 200 →
      (members.filter fun member => member.1 == "access_token").Perm
        (others.filter fun member => member.1 == "access_token") →
      ∀ other_metadata,
        (∀ token, Exchange.tokenOf response metadata = .ok token ↔
          Exchange.tokenOf other other_metadata = .ok token) ∧
        ∀ registration message later,
          FareAlike ((enter registration message).play (⟨metadata, .ok response⟩ :: later))
            ((enter registration message).play (⟨other_metadata, .ok other⟩ :: later))) := by
  have yields := Exchange.yields_tokenOf spelled accepted metadata
  refine ⟨fun token => ?_, fun untold => ?_, fun other_spelled other_accepted perm other_metadata =>
    ?_⟩
  · rw [yields.eq_ok_iff, Exchange.tokenTold?_eq_some_iff, Exchange.tokenMembers]
  · have none_told : Exchange.tokenTold? members = none := by
      rw [Option.eq_none_iff_forall_ne_some]
      intro token told
      exact untold ⟨token.exposed, Exchange.tokenTold?_eq_some_iff.1 told⟩
    refine ⟨?_, fun registration message later asked =>
      refuses_of_untold spelled accepted none_told metadata later registration message asked⟩
    rwa [none_told] at yields
  · have other_yields := Exchange.yields_tokenOf other_spelled other_accepted other_metadata
    have same_told := Exchange.tokenTold?_perm perm
    refine ⟨fun token => ?_, fun registration message later => ?_⟩
    · rw [yields.eq_ok_iff, other_yields.eq_ok_iff, same_told]
    · have first := yields_firstReply spelled accepted metadata later
      rw [same_told] at first
      exact fareAlike first (yields_firstReply other_spelled other_accepted other_metadata later)
        registration message

end

/-- What is nested in another member is not the token; a token that is told twice is refused. -/
theorem token_told_once_nested :
    let response (body : String) : Http.Response := ⟨.http11, .ok, [], Utf8.encode body.toList⟩
    let nested := response
      "\x7b\"extra\":[\x7b\"access_token\":null\x7d],\"access_token\":\"T1\"\x7d"
    let twice := response "\x7b\"access_token\":\"T1\",\"access_token\":\"T1\"\x7d"
    Exchange.tokenOf nested none = .ok ⟨"T1"⟩ ∧
    FareAlike ((enter exampleRegistration exampleCallback).play [⟨none, .ok nested⟩])
      ((enter exampleRegistration exampleCallback).play [tokenAnswer ⟨"T1"⟩]) ∧
    RefusesTokenBody ((enter exampleRegistration exampleCallback).play [⟨none, .ok twice⟩]) := by
  intro response nested twice
  have token_told := Json.tells_string "access_token" "T1"
  have spelled {value : Json.Value} {tree : Tree} {body : String} (text_eq : value.render = body)
      (told : Json.Spells (.value tree) (Utf8.encode value.renderChars)) :
      Json.SpellsDocument tree (response body).body := text_eq ▸ told.document
  have extra_told : Json.TellsMember ("extra", .array [.object [("access_token", .null)]])
      ("extra", .array [.object [("access_token", .null)]]) := by
    have null_told : Json.TellsMember ("access_token", .null) ("access_token", .null) :=
      ⟨rfl, .null (List.forall_mem_nil _)⟩
    have no_blank : Json.IsBlank [] := List.forall_mem_nil _
    have item_told := Json.Spells.item (.first no_blank)
      (Json.spells_object (.cons null_told .nil)) (.noItems no_blank)
    exact ⟨rfl, .array no_blank item_told⟩
  let plain : Http.Response := ⟨.http11, .ok, [], Exchange.tokenBody ⟨"T1"⟩⟩
  have plain_spelled : Json.SpellsDocument (.object [("access_token", .string "T1")]) plain.body :=
    (Exchange.spells_tokenBody _).document
  have untold : ¬∃ token, (List.replicate 2 ("access_token", Tree.string "T1")).filter
      (fun member => member.1 == "access_token") = [("access_token", .string token)] := by
    rintro ⟨token, sole⟩
    simp at sole
  obtain ⟨given_iff, -, alike⟩ := @token_told_once _ _ nested plain
    (spelled (by decide +kernel) (Json.spells_object (.cons extra_told (.cons token_told .nil))))
    rfl none
  obtain ⟨-, refused, -⟩ := @token_told_once _ [] twice plain
    (spelled (by decide +kernel) (Json.spells_object (.cons token_told (.cons token_told .nil))))
    rfl none
  refine ⟨(given_iff "T1").2 rfl, (alike plain_spelled rfl (.refl _) none).2 _ _ _, ?_⟩
  exact (refused untold).2 _ _ _ (asked_example _)

end Google

end SignIn
