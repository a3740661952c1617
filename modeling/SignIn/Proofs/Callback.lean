import SignIn.Callback
import SignIn.Proofs.Except
import SignIn.Proofs.Text
import SignIn.Proofs.Url.Reading

/-!
# Callbacks

When a callback carries a code, and what its failures look like.
-/

namespace SignIn

theorem Url.isBreak_of_not_isBlank {char : Char} (inner : Text.isBlank char = false) :
    isBreak char = false := by
  by_cases broken : isBreak char = true
  · simp only [isBreak, Bool.or_eq_true, beq_iff_eq] at broken
    rcases broken with (rfl | rfl) | rfl <;> exact absurd inner (by decide)
  · simpa using broken

/-! ## Malformed messages -/

/-- An error that blames the head of a message. -/
def Error.IsMalformed (error : Error) : Prop := ∃ reason, error = .malformedMessage reason

theorem Headers.isMalformed_of_ofHead {lines : List String} {error : Error}
    (failed : ofHead lines = .error error) : error.IsMalformed := by
  cases lines with
  | nil =>
    cases failed
    exact ⟨_, rfl⟩
  | cons line lines =>
    refine foldlM_error (fun headers line error added => ?_) failed
    unfold addLine at added
    split at added
    · cases added
    · cases added
      exact ⟨_, rfl⟩

theorem Message.isMalformed_of_singleOr {message : Message} {name default : String}
    {error : Error} (failed : message.singleOr name default = .error error) :
    error.IsMalformed :=
  Headers.isMalformed_of_ofHead (map_eq_error_iff.1 failed)

namespace Callback

/-! ## Codes -/

/-- The URL of a callback has a code as the first parameter of that name, and it is not empty. -/
def Carries (message : Message) (given : String) : Prop :=
  ∃ place, url message = .ok place ∧ place.parameter? "code" = some given ∧ given ≠ ""

theorem codeOf_eq_ok_iff {place : Url} {given : String} :
    codeOf place = .ok given ↔ place.parameter? "code" = some given ∧ given ≠ "" := by
  unfold codeOf
  split
  · rename_i absent
    simp [absent]
  · rename_i empty
    simp [empty]
  · rename_i found given_ne given_eq
    rw [given_eq]
    constructor
    · intro same
      cases same
      refine ⟨rfl, ?_⟩
      rintro rfl
      exact given_ne rfl
    · rintro ⟨same, -⟩
      cases same
      rfl

theorem code_eq_ok_iff {message : Message} {given : String} :
    code message = .ok given ↔ Carries message given := by
  unfold code Carries
  cases url message with
  | error error => simp
  | ok place => simp [codeOf_eq_ok_iff]

/-! ## Targets -/

theorem target_eq_ok_iff {message : Message} {given line : String} {lines : List String}
    (head_eq : message.head = line :: lines) :
    target message = .ok given ↔ (Text.words line.toList)[1]? = some given.toList := by
  simp only [target, head_eq]
  cases (Text.words line.toList)[1]? with
  | none => simp
  | some word =>
    rw [Except.ok.injEq, Option.some.injEq, ← String.toList_inj, String.toList_ofList]

/-- A target is a word, so it holds no blanks. -/
theorem not_isBlank_of_target {message : Message} {given : String}
    (target_eq : target message = .ok given) :
    ∀ char ∈ given.toList, Text.isBlank char = false := by
  unfold target at target_eq
  split at target_eq
  · cases target_eq
  · split at target_eq
    · rename_i word word_eq
      cases target_eq
      have member : word ∈ Text.splitBlank _ :=
        (List.mem_filter.1 (List.mem_of_getElem? word_eq)).1
      simpa using Text.not_isBlank_of_mem_splitBlank member
    · cases target_eq

/-- Behind a method without blanks, the first word is the target. -/
theorem target_of_line {message : Message} {method given version : List Char}
    {lines : List String}
    (head_eq : message.head =
      String.ofList (method ++ ' ' :: (given ++ ' ' :: version)) :: lines)
    (method_ne : method ≠ []) (method_inner : ∀ char ∈ method, Text.isBlank char = false)
    (filled : ∃ char ∈ given, Text.isBlank char = false) :
    target message = .ok (String.ofList (Text.firstWord given)) := by
  have words_eq : Text.words (method ++ ' ' :: (given ++ ' ' :: version)) =
      method :: Text.words (given ++ ' ' :: version) :=
    Text.words_append method_ne method_inner (by decide) _
  rw [target_eq_ok_iff head_eq, String.toList_ofList, String.toList_ofList, words_eq,
    List.getElem?_cons_succ, ← List.head?_eq_getElem?]
  exact Text.head?_words filled (by decide) version

theorem isMalformed_of_target {message : Message} {error : Error}
    (failed : target message = .error error) : error.IsMalformed := by
  unfold target at failed
  split at failed
  · cases failed
    exact ⟨_, rfl⟩
  · split at failed
    · cases failed
    · cases failed
      exact ⟨_, rfl⟩

theorem isMalformed_of_base {host : String} {error : Error} (failed : base host = .error error) :
    error.IsMalformed := by
  unfold base at failed
  split at failed
  · cases failed
  · cases failed
    exact ⟨_, rfl⟩

theorem isMalformed_of_resolve {message : Message} {given : String} {error : Error}
    (failed : resolve message given = .error error) : error.IsMalformed := by
  unfold resolve at failed
  split at failed
  · rename_i first headers_eq
    cases failed
    exact Message.isMalformed_of_singleOr headers_eq
  · split at failed
    · rename_i first base_eq
      cases failed
      exact isMalformed_of_base base_eq
    · split at failed
      · cases failed
      · cases failed
        exact ⟨_, rfl⟩

/-- Whatever is wrong with a callback that has no URL, its message is to blame. -/
theorem isMalformed_of_url {message : Message} {error : Error}
    (failed : url message = .error error) : error.IsMalformed := by
  unfold url at failed
  split at failed
  · rename_i first target_eq
    cases failed
    exact isMalformed_of_target target_eq
  · split at failed
    · cases failed
    · exact isMalformed_of_resolve failed

end Callback

end SignIn
