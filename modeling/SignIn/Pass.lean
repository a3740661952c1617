import SignIn.Header
import SignIn.Identity
import SignIn.Login.Google

/-!
# Passes

A pass is a way to find out who sent a request, and to add to the response once that is known.
Passes that are chained are tried in order.
-/

namespace SignIn

/-- A way to find out who sent a request, with effects of a monad. -/
structure Pass (m : Type → Type) where
  /-- Who sent the request, if it is one for this pass. -/
  enter : Message → m (Except Error (Option Identity))
  /-- The response to be sent to someone. -/
  exit : Message → Identity → m (Except Error Message)

variable {m : Type → Type} [Monad m]

namespace Pass

/-- Leave responses as they are. -/
def unchanged (response : Message) (_ : Identity) : m (Except Error Message) :=
  pure (.ok response)

/-- A login through Google as a pass. -/
def google (send : Slot → Http.Request → m Reply) (report : Event → m Unit)
    (registration : Registration) : Pass m where
  enter := fun request => do
    let result ← (Google.enter registration request).interpret send report
    pure (result.map some)
  exit := unchanged

end Pass

/-- Passes that are tried in order. -/
structure Chain (m : Type → Type) where
  /-- The passes. -/
  passes : List (Pass m)

namespace Chain

/-- The first answer of a list of passes.  A failure is an answer. -/
def enterAll (request : Message) : List (Pass m) → m (Except Error (Option Identity))
  | [] => pure (.ok none)
  | pass :: passes => do
    match ← pass.enter request with
    | .ok none => enterAll request passes
    | answer => pure answer

/-- A response after each pass of a list has added to it, up to the first failure. -/
def exitAll (identity : Identity) : List (Pass m) → Message → m (Except Error Message)
  | [], response => pure (.ok response)
  | pass :: passes, response => do
    match ← pass.exit response identity with
    | .ok changed => exitAll identity passes changed
    | .error error => pure (.error error)

/-- A chain as a pass. -/
def pass (chain : Chain m) : Pass m where
  enter := fun request => enterAll request chain.passes
  exit := fun response identity => exitAll identity chain.passes response

/-- The number of passes. -/
def size (chain : Chain m) : Nat := chain.passes.length

/-- Whether there are no passes. -/
def isEmpty (chain : Chain m) : Bool := chain.passes.isEmpty

/-- What a diagnostic shows of a chain. -/
def describe (chain : Chain m) : String :=
  "PassChain \x7b passes: " ++ toString chain.size ++ " \x7d"

end Chain

end SignIn
