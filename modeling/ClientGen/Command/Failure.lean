import ClientGen.Fault

namespace ClientGen

/-- Why a command fails. What the operating system or a reader of a format says is not kept. -/
inductive Failure
  | io
  | generator (diagnostic : Diagnostic)
  | decode
  | encode
  | descriptor
  | json
  | general (text : String)
deriving DecidableEq, Repr

/-- What a failure says, if that is kept. -/
def Failure.message? : Failure → Option String
  | .generator diagnostic => some s!"Generator Error: {diagnostic.message}"
  | .general text => some s!"Operation failed: {text}"
  | _ => none

end ClientGen
