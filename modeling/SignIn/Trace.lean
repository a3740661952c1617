/-!
# Traces

What a login reports about itself: the span of each call, the stage that it has reached, and a count
of attempts, successes and failures of each stage.
-/

namespace SignIn

/-- The stages of a login. -/
inductive Stage where
  /-- The code is read from the callback. -/
  | awaitingCode
  /-- The code is exchanged for an access token. -/
  | exchangingToken
  /-- The profile is fetched. -/
  | fetchingProfile
  /-- The profile is turned into an identity. -/
  | parsingProfile
deriving DecidableEq

/-- The name of a stage. -/
def Stage.label : Stage → String
  | .awaitingCode => "awaiting_code"
  | .exchangingToken => "exchanging_token"
  | .fetchingProfile => "fetching_profile"
  | .parsingProfile => "parsing_profile"

/-- What is counted of a stage. -/
inductive Outcome where
  /-- The stage begins. -/
  | attempt
  /-- The stage ends well. -/
  | success
  /-- The stage fails. -/
  | failure
deriving DecidableEq

/-- The name of what is counted. -/
def Outcome.label : Outcome → String
  | .attempt => "attempt"
  | .success => "success"
  | .failure => "failure"

/-- What is reported. -/
inductive Event where
  /-- A span is opened for a call of a pass. -/
  | opened (pass entry : String)
  /-- The span is entered. -/
  | entered
  /-- The span is left. -/
  | left
  /-- The open span has reached a stage. -/
  | reached (stage : Stage)
  /-- An outcome of a stage of a pass is counted. -/
  | counted (pass : String) (stage : Stage) (outcome : Outcome)
deriving DecidableEq

/-- The span of one call of a pass. -/
structure Span where
  /-- The name of the pass. -/
  pass : String
deriving DecidableEq

namespace Span

/-- Open a span. -/
def start (pass entry : String) : Span × List Event := (⟨pass⟩, [.opened pass entry])

/-- Work inside a span without interruption. -/
def around (events : List Event) : List Event := .entered :: (events ++ [.left])

/-- Work inside a span that can be set aside: the span is entered once more to clear up. -/
def instrument (events : List Event) : List Event := around events ++ around []

/-- What a diagnostic shows of a span that has been entered. -/
def guardText : String := "FlowSpanGuard(..)"

end Span

end SignIn
