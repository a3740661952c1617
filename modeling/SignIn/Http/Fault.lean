/-!
# Faults of requests and responses

What can be wrong with the parts from which a request or a response is built.
-/

namespace SignIn.Http

/-- Why a text is no request target. -/
inductive TargetFault where
  /-- A character that may not stand where it does. -/
  | character
  /-- An authority that is not well formed. -/
  | authority
  /-- Parts that do not go together. -/
  | format
  /-- The text is too long. -/
  | length
  /-- There is no text. -/
  | empty
  /-- The scheme is too long. -/
  | schemeLength
deriving DecidableEq

/-- Why a request or a response cannot be built. -/
inductive Fault where
  /-- The method is no token. -/
  | method
  /-- The target cannot be read. -/
  | target (fault : TargetFault)
  /-- The name of a field is no token. -/
  | fieldName
  /-- The value of a field holds a control. -/
  | fieldValue
  /-- The status has not three digits. -/
  | status
deriving DecidableEq

/-- The text of a fault. -/
def Fault.message : Fault → String
  | .method => "invalid HTTP method"
  | .target .character => "invalid uri character"
  | .target .authority => "invalid authority"
  | .target .format => "invalid format"
  | .target .length => "uri too long"
  | .target .empty => "empty string"
  | .target .schemeLength => "scheme too long"
  | .fieldName => "invalid HTTP header name"
  | .fieldValue => "failed to parse header value"
  | .status => "invalid status code"

end SignIn.Http
