import ClientGen.Schema.Types

namespace ClientGen

open Schema

inductive StatusCode
  | deadlineExceeded
  | unavailable
deriving DecidableEq, Repr

def StatusCode.goName : StatusCode → String
  | .deadlineExceeded => "DeadlineExceeded"
  | .unavailable => "Unavailable"

/-- When and how often a call is tried again. Each pause is longer than the one before by a factor
given in tenths. -/
structure RetryPolicy where
  codes : List StatusCode := [.deadlineExceeded, .unavailable]
  initialMs : Nat := 100
  maxMs : Nat := 60000
  growthTenths : Nat := 13
deriving DecidableEq, Repr, Inhabited

namespace RetryPolicy

def multiplier (policy : RetryPolicy) : String :=
  s!"{policy.growthTenths / 10}.{policy.growthTenths % 10}"

/-- Only calls that read and that do not stream are tried again. -/
def isRetryable (method : Method) : Bool :=
  !method.clientStreaming && !method.serverStreaming && method.http.any (·.verb.isRead)

def ofService (service : Service) : List (String × RetryPolicy) :=
  (((service.methods.filter isRetryable).map (·.name)).eraseDups).map (·, {})

end RetryPolicy

end ClientGen
