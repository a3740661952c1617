import SignIn.Proofs.Decoding
import SignIn.Proofs.Isolation

/-!
# Answers that are refused

An answer to the request for a token that has another status than that of a success ends the login.
The error tells the status, how long to wait, and the start of the body as text, which is cut
between two characters wherever the body breaks off.
-/

namespace SignIn

namespace Exchange

/-- A text shows as much of a body as an error may tell. -/
structure Shows (body : Bytes) (shown : String) : Prop where
  /-- There is a text to show. -/
  stands : ∃ text, Utf8.StandsFor body text
  /-- A short text is shown whole. -/
  whole : ∀ text, Utf8.StandsFor body text → text.length ≤ 256 → shown = String.ofList text
  /-- Of a longer text the start is shown, which is what the start of the body stands for, and an
  ellipsis. -/
  start : ∀ text, Utf8.StandsFor body text → 256 < text.length →
    shown = String.ofList (text.take 256 ++ ['…']) ∧
      ∃ front back, body = front ++ back ∧ Utf8.StandsFor front (text.take 256) ∧
        Utf8.StandsFor back (text.drop 256)
  /-- Not much is shown. -/
  length_le : shown.length ≤ 257
  /-- A body that is a short text is shown as it is. -/
  text : ∀ text, body = Utf8.encode text → text.length ≤ 256 → shown = String.ofList text

theorem shows_preview (body : Bytes) : Shows body (preview body) := by
  have whole : ∀ text, Utf8.StandsFor body text → text.length ≤ 256 →
      preview body = String.ofList text := by
    intro text stands short
    rw [Utf8.standsFor_iff] at stands
    rw [preview, previewLimit, ← stands, if_pos short]
  have start : ∀ text, Utf8.StandsFor body text → 256 < text.length →
      preview body = String.ofList (text.take 256 ++ ['…']) := by
    intro text stands long
    rw [Utf8.standsFor_iff] at stands
    rw [preview, previewLimit, ← stands, if_neg (Nat.not_le_of_gt long)]
  have stands := Utf8.standsFor_decodeLossy body
  refine ⟨⟨_, stands⟩, whole, fun text stands long => ⟨start text stands long, stands.cut 256⟩, ?_,
    fun text body_eq short => whole text (body_eq ▸ Utf8.standsFor_encode text) short⟩
  rcases Nat.lt_or_ge 256 (Utf8.decodeLossy body).length with long | short
  · rw [start _ stands long, String.length_ofList, List.length_append, List.length_take]
    exact Nat.add_le_add_right (Nat.min_le_left ..) 1
  · rw [whole _ stands short, String.length_ofList]
    exact Nat.le_succ_of_le short

end Exchange

namespace Google

/-- A first answer with another status than that of a success is the last one, and the error tells
its status, its hint how long to wait and the start of its body. -/
theorem rejection_is_shown {registration : Registration} {message : Message}
    {answers : List Answer} {metadata : Option Metadata} {response : Http.Response}
    (answered : answers[0]? = some ⟨metadata, .ok response⟩) (rejected : response.status.code ≠ 200)
    (asked : ((enter registration message).play answers).sent ≠ []) :
    let run := (enter registration message).play answers
    run.sent.length = 1 ∧ ∃ shown, run.result = .error (.provider (.status .token
      response.status.code shown (metadata.bind (·.retryAfter)))) ∧
        Exchange.Shows response.body shown := by
  intro run
  have way := course registration message answers
  have refused := way.refuses answered (mt Http.Status.eq_ok_iff.1 rejected)
    (List.length_pos_iff.2 asked)
  exact ⟨(way.token_refused refused).1, _, refused, Exchange.shows_preview response.body⟩

/-- A text is cut right behind an ill-formed part, which is shown as one character. -/
theorem rejection_is_shown_broken :
    let body : Bytes := List.replicate 255 0x78 ++ [0xF0, 0x9F, 0x98, 0x79, 0x7A]
    let run := (enter exampleRegistration exampleCallback).play
      [⟨some ⟨some 503, some (.ofSeconds 120)⟩, .ok ⟨.http11, ⟨503, by decide⟩, [], body⟩⟩]
    run.sent.length = 1 ∧ run.result = .error (.provider (.status .token 503
      (String.ofList (List.replicate 255 'x' ++ ['\uFFFD', '…'])) (some (.ofSeconds 120)))) := by
  intro body run
  have asked : run.sent ≠ [] := asked_example _
  obtain ⟨one_sent, shown, result_eq, shows⟩ := rejection_is_shown rfl (by decide) asked
  have front_eq : List.replicate 255 0x78 = Utf8.encode (List.replicate 255 'x') := by
    rw [Utf8.encode_ascii fun char member => by rw [List.eq_of_mem_replicate member]; decide,
      List.map_replicate]
    rfl
  have broken : Utf8.StandsFor [0xF0, 0x9F, 0x98, 0x79, 0x7A] ['\uFFFD', 'y', 'z'] :=
    Utf8.standsFor_iff.2 (by decide +kernel)
  have stands := broken.behind (List.replicate 255 'x')
  rw [← front_eq] at stands
  have long : 256 < (List.replicate 255 'x' ++ ['\uFFFD', 'y', 'z']).length := by
    rw [List.length_append, List.length_replicate]
    decide
  have start_eq : (List.replicate 255 'x' ++ ['\uFFFD', 'y', 'z']).take 256 =
      List.replicate 255 'x' ++ ['\uFFFD'] := by
    rw [List.take_append, List.length_replicate, List.take_of_length_le]
    · rfl
    · rw [List.length_replicate]
      decide
  obtain ⟨shown_eq, -⟩ := shows.start _ stands long
  rw [start_eq, List.append_assoc] at shown_eq
  rw [shown_eq] at result_eq
  exact ⟨one_sent, result_eq⟩

end Google

end SignIn
