import SignIn.Error
import SignIn.Http.Exchange

/-!
# Transport

How requests reach the provider.  A transport is handed a slot with each request, in which it leaves
what it learns about the answer before the answer is complete.  Should it fail then, the error can
still tell the status.
-/

namespace SignIn

/-- What is known of an answer from its head. -/
structure Metadata where
  /-- The status. -/
  status : Option Nat := none
  /-- How long to wait before the next attempt. -/
  retryAfter : Option Duration := none
deriving DecidableEq

/-- A place for the metadata of one answer. -/
structure Slot where
  /-- What has been stored and not been taken. -/
  content : Option Metadata := none
deriving DecidableEq

namespace Slot

/-- A slot in which nothing is stored. -/
def empty : Slot := {}

/-- Store metadata in place of what was there. -/
def store (_ : Slot) (metadata : Metadata) : Slot := ⟨some metadata⟩

/-- Take what is stored. -/
def take (slot : Slot) : Option Metadata × Slot := (slot.content, empty)

end Slot

/-- How a transport fails. -/
inductive TransportFault where
  /-- The request cannot be built. -/
  | request (fault : Http.Fault)
  /-- The client refuses the request. -/
  | builder (cause : String)
  /-- The network fails, perhaps after a status. -/
  | network (status : Option Nat) (cause : String)
  /-- Reading or writing fails. -/
  | io (cause : String)
  /-- Anything else. -/
  | other (message : String)
deriving DecidableEq

/-- The error of a fault on a round trip.  A status in the metadata goes before the fault's own. -/
def TransportFault.error (hop : Hop) (metadata : Option Metadata) : TransportFault → Error
  | .request fault => .config (.request fault)
  | .builder cause => .config (.clientBuild cause)
  | .network own cause =>
    .provider (.transport (.network hop ((metadata.bind (·.status)).or own) cause))
  | .io cause => .provider (.transport (.io hop cause))
  | .other message => .provider (.transport (.other hop (metadata.bind (·.status)) message))

/-- What a transport makes of a request: the slot afterwards, and the answer or a fault. -/
structure Reply where
  /-- The slot that came with the request. -/
  slot : Slot
  /-- The answer. -/
  outcome : Except TransportFault Http.Response

end SignIn
