import SignIn.Proofs.FlowSafety
import SignIn.Proofs.Json.Members
import SignIn.Proofs.Json.Rendering

/-!
# Token answers

An answer of success yields an access token exactly if one member of its object is called like it
and holds a text.  The plainest such answer holds nothing else.
-/

namespace SignIn

open Json (Tree)

namespace Exchange

/-! ## The record -/

/-- The members that are called like the access token. -/
def tokenMembers (members : List (String × Tree)) : List (String × Tree) :=
  members.filter fun member => member.1 == "access_token"

/-- The access token that members tell: the text of the one that is called like it. -/
def tokenTold? (members : List (String × Tree)) : Option Secret :=
  match tokenMembers members with
  | [member] => member.2.text?.map Secret.mk
  | _ => none

theorem tokenTold?_eq_some_iff {members : List (String × Tree)} {token : Secret} :
    tokenTold? members = some token ↔
      tokenMembers members = [("access_token", .string token.exposed)] := by
  unfold tokenTold?
  split
  next member sole =>
    have named : member.1 = "access_token" := by
      have inside : member ∈ tokenMembers members := by simp [sole]
      simpa using (List.mem_filter.1 inside).2
    obtain ⟨name, tree⟩ := member
    cases named
    rw [sole, Option.map_eq_some_iff]
    constructor
    · rintro ⟨text, text_eq, rfl⟩
      have tree_eq : tree = .string text := Tree.text?_eq_some_iff.1 text_eq
      rw [tree_eq]
    · intro same
      simp only [List.cons.injEq, Prod.mk.injEq, true_and, and_true] at same
      exact ⟨token.exposed, Tree.text?_eq_some_iff.2 same, rfl⟩
  next several =>
    simp only [reduceCtorEq, false_iff]
    exact several _

/-- Members with the same tokens tell the same. -/
theorem tokenTold?_perm {members others : List (String × Tree)}
    (perm : (tokenMembers members).Perm (tokenMembers others)) :
    tokenTold? members = tokenTold? others := by
  refine Option.ext fun token => ?_
  rw [tokenTold?_eq_some_iff, tokenTold?_eq_some_iff]
  constructor
  · intro sole
    rw [sole] at perm
    exact List.perm_singleton.1 perm.symm
  · intro sole
    rw [sole] at perm
    exact List.perm_singleton.1 perm

/-- How the value of a member changes what is known of the token. -/
def tokenFilling (_ : String) (tree : Tree) : Option (Option Secret → Option Secret) :=
  (tree.text?.map Secret.mk).map fun token _ => some token

theorem fills_token (tree : Tree) :
    ∀ field ∈ tokenRecord.fields, Json.Fills field tree (tokenFilling field.name tree) :=
  List.forall_mem_singleton.2 (((Json.makes_text tree).map Secret.mk).fills fun _ => rfl)

/-- A member that is called like the token gives it, unless another one has done so before. -/
theorem step_token {member : String × Tree} (named : member.1 = "access_token")
    (draft : Option Secret) :
    tokenRecord.step tokenFilling draft member =
      if draft.isSome then none else (member.2.text?.map Secret.mk).map some := by
  rw [Json.Record.step, named]
  simp [tokenRecord, tokenFilling, Function.comp_def]

/-- Of the members of an object only those matter that are called like the token. -/
theorem foldlM_token (members : List (String × Tree)) :
    ((members.foldlM (tokenRecord.step tokenFilling) tokenRecord.blank).bind fun draft =>
        (tokenRecord.finish draft).toOption) = tokenTold? members := by
  have foreign (name : String) (other : (name == "access_token") = false) :
      tokenRecord.Foreign name :=
    Json.Record.foreign_iff.2 fun inside =>
      beq_eq_false_iff_ne.1 other (List.mem_singleton.1 inside)
  have named : ∀ member ∈ tokenMembers members, member.1 = "access_token" := fun member inside => by
    simpa using (List.mem_filter.1 inside).2
  rw [Json.Record.foldlM_filter foreign]
  change Option.bind ((tokenMembers members).foldlM _ none) _ = _
  unfold tokenTold?
  generalize tokenMembers members = tokens at named
  cases tokens with
  | nil => rfl
  | cons first others =>
    obtain ⟨first_named, others_named⟩ := List.forall_mem_cons.1 named
    rw [List.foldlM_cons, step_token first_named]
    cases others with
    | nil =>
      dsimp only
      cases first.2.text? <;> rfl
    | cons second others =>
      -- Whatever comes first, a second token is not taken.
      have refused (token : Secret) :
          (second :: others).foldlM (tokenRecord.step tokenFilling) (some token) = none := by
        rw [List.foldlM_cons, step_token (others_named second List.mem_cons_self)]
        rfl
      cases first.2.text? with
      | none => rfl
      | some text => exact congrArg (Option.bind · _) (refused ⟨text⟩)

theorem makes_token (members : List (String × Tree)) :
    Json.Makes tokenRecord.read (.object members) (tokenTold? members) := by
  rw [← foldlM_token]
  exact Json.Record.makes fun member _ field inside _ => fills_token member.2 field inside

/-! ## The answer -/

/-- What comes of an answer: the token that it tells, or a refusal of its body. -/
def Yields (told : Option Secret) (result : Except Error Secret) : Prop :=
  match told with
  | some token => result = .ok token
  | none => ∃ failure, result = .error (.provider (.parse .token failure))

theorem Yields.eq_ok_iff {told : Option Secret} {result : Except Error Secret}
    (yields : Yields told result) {token : Secret} : result = .ok token ↔ told = some token := by
  cases told with
  | none =>
    obtain ⟨failure, rfl⟩ := yields
    simp
  | some given =>
    obtain rfl : result = .ok given := yields
    simp

/-- An answer of success yields the token that its members tell. -/
theorem yields_tokenOf {members : List (String × Tree)} {response : Http.Response}
    (spelled : Json.SpellsDocument (.object members) response.body)
    (accepted : response.status.code = 200) (metadata : Option Metadata) :
    Yields (tokenTold? members) (tokenOf response metadata) := by
  obtain ⟨blank, -, leaves⟩ := (makes_token members).whole spelled
  rw [tokenOf, if_pos (Http.Status.eq_ok_iff.2 accepted)]
  cases told : tokenTold? members with
  | none =>
    rw [told] at leaves
    obtain ⟨failure, read_eq⟩ := leaves
    exact ⟨failure, readBody_eq_error_iff.2 ⟨failure, read_eq, rfl⟩⟩
  | some token =>
    rw [told] at leaves
    obtain ⟨last, read_eq, -⟩ := leaves
    exact readBody_eq_ok_iff.2 ⟨last, read_eq⟩

/-! ## A token alone -/

/-- The body that tells a token and nothing else. -/
def tokenBody (token : Secret) : Bytes :=
  Utf8.encode (Json.Value.object [("access_token", .string token.exposed)]).renderChars

theorem spells_tokenBody (token : Secret) :
    Json.Spells (.value (.object [("access_token", .string token.exposed)])) (tokenBody token) :=
  Json.spells_object (.cons (Json.tells_string _ _) .nil)

/-- The token is read, and what follows the body is left. -/
theorem read_tokenBody {token : Secret} {bytes behind : Bytes} (ends : Json.EndsNumber behind)
    (bytes_eq : bytes = tokenBody token ++ behind) :
    ∃ last, tokenRecord.read bytes = .ok (token, last) ∧ last.val = behind := by
  have leaves := makes_token _ _ _ behind (spells_tokenBody token) ends bytes_eq
  have told : tokenTold? [("access_token", .string token.exposed)] = some token := by
    simp [tokenTold?_eq_some_iff, tokenMembers]
  rwa [told] at leaves

end Exchange

namespace Google

/-- The answer of success that tells a token and nothing else. -/
def tokenAnswer (token : Secret) : Answer :=
  ⟨none, .ok ⟨.http11, .ok, [], Exchange.tokenBody token⟩⟩

theorem givesToken_tokenAnswer (token : Secret) (later : List Answer) :
    GivesToken (tokenAnswer token :: later) token := by
  obtain ⟨last, read_eq, -⟩ :=
    Exchange.read_tokenBody (Json.avoids_nil Json.goesOn) (List.append_nil _).symm
  exact ⟨none, _, last, rfl, rfl, read_eq⟩

end Google

end SignIn
