import SignIn.Pass

/-!
# Chains

A chain asks its passes from left to right and stops at the first one that has an answer; what goes
out is changed by each of them in turn.  Chains can be nested at will: only the order of their
passes counts.
-/

namespace SignIn

variable {m : Type → Type} [Monad m]

namespace Chain

/-! ## Going on -/

/-- Go on after a pass that has no answer. -/
def goOn (next : m (Except Error (Option Identity))) :
    Except Error (Option Identity) → m (Except Error (Option Identity))
  | .ok none => next
  | answer => pure answer

theorem goOn_of_ne {next : m (Except Error (Option Identity))}
    {answer : Except Error (Option Identity)} (answered : answer ≠ .ok none) :
    goOn next answer = pure answer := by
  unfold goOn
  split
  · exact absurd rfl answered
  · rfl

theorem enterAll_nil (request : Message) :
    enterAll request ([] : List (Pass m)) = pure (.ok none) :=
  rfl

theorem enterAll_cons (request : Message) (pass : Pass m) (passes : List (Pass m)) :
    enterAll request (pass :: passes) = pass.enter request >>= goOn (enterAll request passes) :=
  rfl

theorem goOn_none (answer : Except Error (Option Identity)) :
    goOn (pure (.ok none) : m _) answer = pure answer := by
  by_cases silent : answer = .ok none
  · rw [silent]
    rfl
  · exact goOn_of_ne silent

section Lawful

variable [LawfulMonad m]

theorem goOn_goOn (next last : m (Except Error (Option Identity)))
    (answer : Except Error (Option Identity)) :
    goOn next answer >>= goOn last = goOn (next >>= goOn last) answer := by
  by_cases silent : answer = .ok none
  · rw [silent]
    rfl
  · rw [goOn_of_ne silent, goOn_of_ne silent, pure_bind, goOn_of_ne silent]

/-- The passes at the back are asked if those in front have no answer. -/
theorem enterAll_append (request : Message) (front back : List (Pass m)) :
    enterAll request (front ++ back) =
      enterAll request front >>= goOn (enterAll request back) := by
  induction front with
  | nil =>
    rw [List.nil_append, enterAll_nil, pure_bind]
    rfl
  | cons pass front ih =>
    have step := fun answer => goOn_goOn (enterAll request front) (enterAll request back) answer
    calc enterAll request (pass :: front ++ back)
      _ = pass.enter request >>=
            goOn (enterAll request front >>= goOn (enterAll request back)) := by
          rw [List.cons_append, enterAll_cons, ih]
      _ = pass.enter request >>= (fun answer =>
            goOn (enterAll request front) answer >>= goOn (enterAll request back)) := by
          simp only [step]
      _ = enterAll request (pass :: front) >>= goOn (enterAll request back) := by
          rw [enterAll_cons, bind_assoc]

theorem enterAll_singleton (request : Message) (pass : Pass m) :
    enterAll request [pass] = pass.enter request := by
  have nothing_left : goOn (enterAll request ([] : List (Pass m))) = pure := funext goOn_none
  rw [enterAll_cons, nothing_left, bind_pure]

end Lawful

/-! ## Going out -/

/-- Go on with a response that has been changed, but not after a failure. -/
def goOut (next : Message → m (Except Error Message)) :
    Except Error Message → m (Except Error Message)
  | .ok changed => next changed
  | .error error => pure (.error error)

theorem exitAll_cons (identity : Identity) (pass : Pass m) (passes : List (Pass m))
    (response : Message) :
    exitAll identity (pass :: passes) response =
      pass.exit response identity >>= goOut (exitAll identity passes) :=
  rfl

/-- A response goes through the passes in order, up to the first failure. -/
theorem exitAll_eq_foldlM (identity : Identity) (passes : List (Pass m)) (response : Message) :
    exitAll identity passes response =
      (passes.foldlM (fun changed pass => ExceptT.mk (pass.exit changed identity)) response :
        ExceptT Error m Message).run := by
  induction passes generalizing response with
  | nil => rfl
  | cons pass passes ih =>
    rw [exitAll_cons, List.foldlM_cons, ExceptT.run_bind]
    congr 1
    funext changed
    cases changed with
    | ok changed => exact ih changed
    | error error => rfl

section Lawful

variable [LawfulMonad m]

theorem exitAll_append (identity : Identity) (front back : List (Pass m)) (response : Message) :
    exitAll identity (front ++ back) response =
      exitAll identity front response >>= goOut (exitAll identity back) := by
  rw [exitAll_eq_foldlM, List.foldlM_append, ExceptT.run_bind, ← exitAll_eq_foldlM]
  congr 1
  funext changed
  cases changed with
  | ok changed => exact (exitAll_eq_foldlM identity back changed).symm
  | error error => rfl

theorem exitAll_singleton (identity : Identity) (pass : Pass m) (response : Message) :
    exitAll identity [pass] response = pass.exit response identity := by
  have nothing_left : goOut (exitAll identity ([] : List (Pass m))) = pure := by
    funext changed
    cases changed <;> rfl
  rw [exitAll_cons, nothing_left, bind_pure]

end Lawful

/-! ## Runs in a world

A world may hold whatever the passes leave behind, such as a record of the calls.
-/

section World

variable {σ : Type}

/-- Some passes of a list were asked, in order, and each gave an answer; the others were not.  The
last of the answers is that of the whole list. -/
structure Asked (request : Message) (passes : List (Pass (StateM σ))) (world : σ)
    (answer : Except Error (Option Identity)) (after : σ)
    (asked later : List (Pass (StateM σ))) (answers : List (Except Error (Option Identity))) :
    Prop where
  /-- The passes that were asked come first. -/
  split : passes = asked ++ later
  /-- All that happened is that these were asked. -/
  run : (asked.mapM fun (pass : Pass (StateM σ)) => pass.enter request).run world = (answers, after)
  /-- There is no answer if all were asked and none had one. -/
  none_iff : answer = .ok none ↔ later = [] ∧ ∀ given ∈ answers, given = .ok none
  /-- An answer is that of the last pass asked, and those before it had none. -/
  last : answer ≠ .ok none →
    ∃ silent, answers = silent ++ [answer] ∧ ∀ given ∈ silent, given = .ok none

/-- One more pass in front, that had no answer. -/
theorem Asked.cons {request : Message} {pass : Pass (StateM σ)} {passes : List (Pass (StateM σ))}
    {world middle after : σ} {answer : Except Error (Option Identity)}
    {asked later : List (Pass (StateM σ))} {answers : List (Except Error (Option Identity))}
    (silent : (pass.enter request).run world = (.ok none, middle))
    (rest : Asked request passes middle answer after asked later answers) :
    Asked request (pass :: passes) world answer after (pass :: asked) later
      (.ok none :: answers) where
  split := by rw [rest.split, List.cons_append]
  run := by
    rw [List.mapM_cons, StateT.run_bind, silent]
    change ((asked.mapM fun (pass : Pass (StateM σ)) => pass.enter request).run middle >>=
      fun given => pure (.ok none :: given.1, given.2)) = _
    rw [rest.run]
    rfl
  none_iff := by
    rw [rest.none_iff, List.forall_mem_cons]
    exact and_congr_right fun _ => (and_iff_right rfl).symm
  last := by
    intro answered
    obtain ⟨before, answers_eq, before_silent⟩ := rest.last answered
    refine ⟨.ok none :: before, ?_, ?_⟩
    · rw [answers_eq, List.cons_append]
    · exact List.forall_mem_cons.2 ⟨rfl, before_silent⟩

/-- The first pass that has an answer ends the run. -/
theorem Asked.answered {request : Message} {pass : Pass (StateM σ)}
    {passes : List (Pass (StateM σ))} {world after : σ} {answer : Except Error (Option Identity)}
    (run : (pass.enter request).run world = (answer, after)) (answered : answer ≠ .ok none) :
    Asked request (pass :: passes) world answer after [pass] passes [answer] where
  split := rfl
  run := by
    rw [List.mapM_cons, StateT.run_bind, run]
    rfl
  none_iff := by
    refine iff_of_false answered fun silent => ?_
    exact answered (silent.2 answer (List.mem_singleton_self answer))
  last := fun _ => ⟨[], rfl, fun _ impossible => absurd impossible List.not_mem_nil⟩

theorem asked (request : Message) (passes : List (Pass (StateM σ))) (world : σ) :
    ∃ asked later answers,
      Asked request passes world ((enterAll request passes).run world).1
        ((enterAll request passes).run world).2 asked later answers := by
  induction passes generalizing world with
  | nil =>
    refine ⟨[], [], [], rfl, rfl, iff_of_true rfl ⟨rfl, ?_⟩, fun answered => absurd rfl answered⟩
    exact fun _ impossible => absurd impossible List.not_mem_nil
  | cons pass passes ih =>
    rcases run : (pass.enter request).run world with ⟨answer, middle⟩
    have run_cons : (enterAll request (pass :: passes)).run world =
        (goOn (enterAll request passes) answer).run middle := by
      rw [enterAll_cons, StateT.run_bind, run]
      rfl
    rw [run_cons]
    by_cases silent : answer = .ok none
    · obtain ⟨asked, later, answers, rest⟩ := ih middle
      subst silent
      exact ⟨pass :: asked, later, .ok none :: answers, rest.cons run⟩
    · rw [goOn_of_ne silent]
      exact ⟨[pass], passes, [answer], Asked.answered run silent⟩

/-- A response that cannot be sent failed at one pass: those in front of it changed the response,
and those behind it were left alone. -/
theorem exitAll_failure {identity : Identity} {passes : List (Pass (StateM σ))} {response : Message}
    {world after : σ} {error : Error}
    (run : (exitAll identity passes response).run world = (.error error, after)) :
    ∃ front pass back changed middle, passes = front ++ pass :: back ∧
      (exitAll identity front response).run world = (.ok changed, middle) ∧
      (pass.exit changed identity).run middle = (.error error, after) := by
  induction passes generalizing response world with
  | nil => cases run
  | cons pass passes ih =>
    rcases first : (pass.exit response identity).run world with ⟨outcome, middle⟩
    have run_cons (rest : List (Pass (StateM σ))) :
        (exitAll identity (pass :: rest) response).run world =
          (goOut (exitAll identity rest) outcome).run middle := by
      rw [exitAll_cons, StateT.run_bind, first]
      rfl
    rw [run_cons] at run
    cases outcome with
    | error failure =>
      cases run
      exact ⟨[], pass, passes, response, world, rfl, rfl, first⟩
    | ok changed =>
      obtain ⟨front, failed, back, last, before, passes_eq, front_run, failed_run⟩ := ih run
      refine ⟨pass :: front, failed, back, last, before, ?_, ?_, failed_run⟩
      · rw [passes_eq, List.cons_append]
      · rw [run_cons]
        exact front_run

end World

/-! ## Chains of chains -/

section Lawful

variable [LawfulMonad m]

/-- A chain inside a chain can be replaced by its passes. -/
theorem pass_splice (front inner back : List (Pass m)) :
    (Chain.mk (front ++ (Chain.mk inner).pass :: back)).pass =
      (Chain.mk (front ++ (inner ++ back))).pass := by
  have enter_eq (request : Message) :
      enterAll request (front ++ (Chain.mk inner).pass :: back) =
        enterAll request (front ++ (inner ++ back)) := by
    rw [enterAll_append, enterAll_append request front, enterAll_append request inner]
    rfl
  have exit_eq (response : Message) (identity : Identity) :
      exitAll identity (front ++ (Chain.mk inner).pass :: back) response =
        exitAll identity (front ++ (inner ++ back)) response := by
    rw [exitAll_append, exitAll_append identity front,
      funext (exitAll_append identity inner back)]
    rfl
  rw [Chain.pass, funext enter_eq, funext fun response => funext (exit_eq response), Chain.pass]

/-- A chain of one pass is that pass. -/
theorem pass_singleton (pass : Pass m) : (Chain.mk [pass]).pass = pass := by
  have enter_eq : (fun request => enterAll request [pass]) = pass.enter :=
    funext fun request => enterAll_singleton request pass
  have exit_eq : (fun response identity => exitAll identity [pass] response) = pass.exit :=
    funext fun response => funext fun identity => exitAll_singleton identity pass response
  rw [Chain.pass, enter_eq, exit_eq]

/-- A chain of chains is the chain of all their passes. -/
theorem pass_flatten (groups : List (List (Pass m))) :
    (Chain.mk (groups.map fun group => (Chain.mk group).pass)).pass =
      (Chain.mk groups.flatten).pass := by
  suffices spliced : ∀ front : List (Pass m),
      (Chain.mk (front ++ groups.map fun group => (Chain.mk group).pass)).pass =
        (Chain.mk (front ++ groups.flatten)).pass from spliced []
  induction groups with
  | nil => exact fun _ => rfl
  | cons group groups ih =>
    intro front
    rw [List.map_cons, pass_splice, ← List.append_assoc, ih, List.flatten_cons, List.append_assoc]

/-- A login has an answer to every request, so that what comes after it is never asked. -/
theorem enterAll_google (send : Slot → Http.Request → m Reply) (report : Event → m Unit)
    (registration : Registration) (request : Message) (front back : List (Pass m)) :
    enterAll request (front ++ Pass.google send report registration :: back) =
      enterAll request (front ++ [Pass.google send report registration]) := by
  have answered (result : Except Error Identity) (next : m (Except Error (Option Identity))) :
      goOn next (result.map some) = pure (result.map some) := by
    cases result <;> rfl
  have last (later : List (Pass m)) :
      enterAll request (Pass.google send report registration :: later) =
        (Pass.google send report registration).enter request := by
    simp only [enterAll_cons, Pass.google, bind_assoc, pure_bind, answered]
  rw [enterAll_append, enterAll_append request front, last, last]

end Lawful

/-- Chains ask their passes in order up to the first answer, and only their order counts, however
they are nested. -/
theorem chains_keep_order [LawfulMonad m] {σ : Type} :
    (∀ (request : Message) (passes : List (Pass (StateM σ))) (world : σ), ∃ asked later answers,
      Asked request passes world (((Chain.mk passes).pass.enter request).run world).1
        (((Chain.mk passes).pass.enter request).run world).2 asked later answers) ∧
    (∀ (identity : Identity) (passes : List (Pass m)) (response : Message),
      (Chain.mk passes).pass.exit response identity =
        (passes.foldlM (fun changed pass => ExceptT.mk (pass.exit changed identity)) response :
          ExceptT Error m Message).run) ∧
    (∀ (identity : Identity) (passes : List (Pass (StateM σ))) (response : Message)
        (world after : σ) (error : Error),
      ((Chain.mk passes).pass.exit response identity).run world = (.error error, after) →
      ∃ front pass back changed middle, passes = front ++ pass :: back ∧
        ((Chain.mk front).pass.exit response identity).run world = (.ok changed, middle) ∧
        (pass.exit changed identity).run middle = (.error error, after)) ∧
    (∀ front back : List (Pass m),
      (Chain.mk [(Chain.mk front).pass, (Chain.mk back).pass]).pass =
        (Chain.mk (front ++ back)).pass) ∧
    (∀ pass : Pass m, (Chain.mk [(Chain.mk []).pass, pass]).pass = pass ∧
      (Chain.mk [pass, (Chain.mk []).pass]).pass = pass) ∧
    (∀ (send : Slot → Http.Request → m Reply) (report : Event → m Unit)
        (registration : Registration) (request : Message) (front back : List (Pass m)),
      (Chain.mk (front ++ Pass.google send report registration :: back)).pass.enter request =
        (Chain.mk (front ++ [Pass.google send report registration])).pass.enter request) := by
  refine ⟨asked, exitAll_eq_foldlM, fun _ _ _ _ _ _ => exitAll_failure, ?flatten, ?neutral,
    enterAll_google⟩
  case flatten =>
    intro front back
    have flat := pass_flatten [front, back]
    rw [List.flatten_cons, List.flatten_singleton] at flat
    exact flat
  case neutral =>
    intro pass
    have behind := pass_splice [] [] [pass]
    have before := pass_splice [pass] [] []
    exact ⟨behind.trans (pass_singleton pass), before.trans (pass_singleton pass)⟩

/-- A pass that writes its name into the world and has a fixed answer. -/
def noting (name : String) (answer : Except Error (Option Identity)) :
    Pass (StateM (List String)) where
  enter := fun _ names => (answer, names ++ [name])
  exit := fun response _ names => (.ok response, names ++ [name])

/-- The third pass of a nested chain is not asked once the second has failed. -/
theorem chains_keep_order_nested :
    let first := noting "first" (.ok none)
    let second := noting "second" (.error (.badRequest "no"))
    let third := noting "third" (.ok none)
    ((Chain.mk [(Chain.mk [first]).pass, (Chain.mk [second, third]).pass]).pass.enter
      ⟨[], []⟩).run [] = (.error (.badRequest "no"), ["first", "second"]) := by
  intro first second third
  have flat := (@chains_keep_order (StateM (List String)) _ _ Unit).2.2.2.1
    [first] [second, third]
  rw [flat]
  rfl

end Chain
end SignIn
