import ClientGen.Fault
import ClientGen.Schema.Types

namespace ClientGen

open Schema

inductive CallShape
  | unary
  | serverStreaming
  | clientStreaming
  | bidiStreaming
  | paged (field : Field)
  | longRunning
deriving DecidableEq, Repr

namespace CallShape

def label : CallShape → String
  | .unary => "unary"
  | .serverStreaming => "server-streaming"
  | .clientStreaming => "client-streaming"
  | .bidiStreaming => "bidi-streaming"
  | .paged field => s!"paged({field.name})"
  | .longRunning => "long-running"

def hasSingular (message : Message) (name : String) (kind : FieldKind) : Bool :=
  (message.field? name).any (·.isSingular kind)

/-- Whether a pair of messages carries page tokens. -/
def isPageShaped (input output : Message) : Bool :=
  hasSingular input "page_size" .int32 && hasSingular input "page_token" .string &&
    hasSingular output "next_page_token" .string

/-- The field that holds a page, if the messages carry page tokens. It must be the only repeated
field of the response. -/
def pagingField (method : Method) (input output : Message) : Except Fault (Option Field) :=
  if isPageShaped input output then
    match output.repeatedFields with
    | [field] => .ok (some field)
    | [] => .error (.missingPageElement method.name output.name)
    | fields => .error (.ambiguousPaging method.name output.name fields.length)
  else .ok none

def ofStreaming (method : Method) : CallShape :=
  match method.clientStreaming, method.serverStreaming with
  | true, true => .bidiStreaming
  | false, true => .serverStreaming
  | true, false => .clientStreaming
  | false, false => .unary

/-- Long-running calls come first, then paged ones; only then do the streaming flags count. -/
def classify (method : Method) (input output : Message) : Except Fault CallShape :=
  if method.outputType = operationType then .ok .longRunning
  else (pagingField method input output).map fun
    | some field => .paged field
    | none => ofStreaming method

end CallShape

end ClientGen
