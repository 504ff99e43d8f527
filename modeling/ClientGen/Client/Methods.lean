import ClientGen.Client.Scaffold

namespace ClientGen.Client

open Text Code

variable (client : Client)

def methodComment (call : Call) : Code :=
  match call.doc with
  | none => []
  | some text =>
    when (!(trimmed text).isEmpty) [
      comment (call.method.name ++ " " ++ Naming.lowerFirst (trimmed text))]

def callSetup (call : Call) : Code :=
  let slot := "c.CallOptions." ++ call.method.name
  seq [
    line "ctx = insertMetadata(ctx, c.xGoogMetadata)",
    line s!"opts = append({slot}[0:len({slot}):len({slot})], opts...)"]

def invoke (call : Call) (target args : String) : Code :=
  block "err := gax.Invoke(ctx, func(ctx context.Context, settings gax.CallSettings) error " [
    line "var err error",
    line s!"{target}, err = c.{client.stubField}.{call.method.name}({args}, settings.GRPC...)",
    line "return err"] ", opts...)"

def signature (call : Call) (params results : String) : String :=
  s!"func (c *{client.typeName}) {call.method.name}(ctx context.Context, {params}opts ...gax.CallOption) {results} "

def requestParam (request : GoType) : String :=
  s!"req *{request.render}, "

def unaryMethod (call : Call) (request response : GoType) : Code :=
  block (client.signature call (requestParam request) s!"(*{response.render}, error)") [
    callSetup call,
    line s!"var resp *{response.render}",
    client.invoke call "resp" "ctx, req",
    returnOnError "nil",
    line "return resp, nil"]

def acknowledgedMethod (call : Call) (request : GoType) : Code :=
  block (client.signature call (requestParam request) "error") [
    callSetup call,
    client.invoke call "_" "ctx, req",
    line "return err"]

def longRunningMethod (call : Call) (request operation : GoType) : Code :=
  block (client.signature call (requestParam request) "(*longrunning.Operation, error)") [
    callSetup call,
    line s!"var resp *{operation.render}",
    client.invoke call "resp" "ctx, req",
    returnOnError "nil",
    line "return longrunning.InternalNewOperation(c.LROClient, resp), nil"]

def streamMethod (call : Call) (params args : String) : Code :=
  let stream := s!"{client.stub.name}.{client.service.name}_{call.method.name}Client"
  block (client.signature call params s!"({stream}, error)") [
    callSetup call,
    line s!"var resp {stream}",
    client.invoke call "resp" args,
    returnOnError "nil",
    line "return resp, nil"]

def fetchPage (call : Call) (response : GoType) (element : Element) (field : String) : Code :=
  block s!"it.InternalFetch = func(pageSize int, pageToken string) ([]{element.goType}, string, error) " [
    line s!"var resp *{response.render}",
    line "req.PageToken = pageToken",
    branch "pageSize > math.MaxInt32"
      [line "req.PageSize = math.MaxInt32"]
      [line "req.PageSize = int32(pageSize)"],
    client.invoke call "resp" "ctx, req",
    returnOnError "nil, \"\"",
    line s!"return resp.Get{Naming.goField field}(), resp.GetNextPageToken(), nil"]

def bufferPage : Code :=
  block "fetch := func(pageSize int, pageToken string) (string, error) " [
    line "items, nextPageToken, err := it.InternalFetch(pageSize, pageToken)",
    returnOnError "\"\"",
    line "it.items = append(it.items, items...)",
    line "return nextPageToken, nil"]

def pagedMethod (call : Call) (request response : GoType) (element : Element) (field : String) :
    Code :=
  block (client.signature call (requestParam request) s!"*{element.iterator}") [
    callSetup call,
    line s!"it := &{element.iterator}\x7b\x7d",
    line s!"req = proto.Clone(req).(*{request.render})",
    client.fetchPage call response element field,
    bufferPage,
    line "it.pageInfo, it.nextFunc = iterator.NewPageInfo(fetch, it.bufLen, it.takeBuf)",
    line "it.pageInfo.MaxSize = int(req.GetPageSize())",
    line "return it"]

def methodBody (call : Call) : Code :=
  match call.exchange with
  | .unary request response => client.unaryMethod call request response
  | .acknowledged request => client.acknowledgedMethod call request
  | .longRunning request operation => client.longRunningMethod call request operation
  | .serverStream request => client.streamMethod call (requestParam request) "ctx, req"
  | .clientStream => client.streamMethod call "" "ctx"
  | .paged request response element field => client.pagedMethod call request response element field

def method (call : Call) : Code :=
  seq [methodComment call, client.methodBody call, blank]

end ClientGen.Client
