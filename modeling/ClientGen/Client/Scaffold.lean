import ClientGen.Client.Basic
import ClientGen.Code
import ClientGen.Text.Quoted

namespace ClientGen.Client

open Text Code

variable (client : Client)

/-- The width in bytes of the longest text. -/
def widest (texts : List String) : Nat :=
  (texts.map String.utf8ByteSize).foldl max 0

def methodNames : List String := client.service.methods.map (·.name)

def optionsStruct : Code :=
  let width := widest client.methodNames
  seq [
    line s!"// {client.optionsType} contains the retry settings for each method of {client.typeName}.",
    block s!"type {client.optionsType} struct " [
      lines (client.methodNames.map fun name => padded width name ++ " []gax.CallOption")],
    blank]

/-- A host without a port is reached at the port for HTTPS. -/
def endpoint : String :=
  if client.host.toList.contains ':' then client.host else client.host ++ ":443"

def hasScopes : Bool := !client.service.oauthScopes.isEmpty

def clientOptions : Code :=
  seq [
    block s!"func default{client.stem}ClientOptions() []option.ClientOption " [
      block "return []option.ClientOption" [
        line s!"option.WithEndpoint({quoted client.endpoint}),",
        when client.hasScopes [
          line s!"option.WithScopes(Default{client.stem}AuthScopes()...),"]]],
    blank]

def authScopes : Code :=
  when client.hasScopes [
    line s!"// Default{client.stem}AuthScopes reports the default set of authentication scopes to use with this package.",
    block s!"func Default{client.stem}AuthScopes() []string " [
      block "return []string" [
        lines (client.service.oauthScopes.map fun scope => quoted scope ++ ",")]],
    blank]

def retryBlock (policy : RetryPolicy) : Code :=
  block "retry := []gax.CallOption" [
    block "gax.WithRetry(func() gax.Retryer " [
      block "return gax.OnCodes([]codes.Code" [
        lines (policy.codes.map fun code => s!"codes.{code.goName},")] ", gax.Backoff\x7b",
      line s!"Initial:    {policy.initialMs} * time.Millisecond,",
      line s!"Max:        {policy.maxMs} * time.Millisecond,",
      line s!"Multiplier: {policy.multiplier},",
      line "\x7d)"] "),"]

/-- The default options of a method: the shared ones if it is tried again, else none. -/
def callOption (name : String) : String :=
  if client.retries.any (·.1 == name) then "retry" else "[]gax.CallOption\x7b\x7d"

def sharedRetry : Code :=
  match client.retries with
  | [] => []
  | (_, policy) :: _ => retryBlock policy

def callOptions : Code :=
  let width := widest (client.methodNames.map (· ++ ":"))
  seq [
    block s!"func default{client.optionsType}() *{client.optionsType} " [
      client.sharedRetry,
      block s!"return &{client.optionsType}" [
        lines (client.methodNames.map fun name =>
          padded width (name ++ ":") ++ " " ++ client.callOption name ++ ",")]],
    blank]

def serviceComment : Code :=
  match client.doc with
  | none => []
  | some text => when (!(trimmed text).isEmpty) [line "//", comment (trimmed text)]

def label : String := dropLeading '.' client.fullName

def clientStruct : Code :=
  seq [
    line s!"// {client.typeName} is a client for interacting with {client.label}.",
    client.serviceComment,
    block s!"type {client.typeName} struct " [
      line "// The connection to the service.",
      line "conn *grpc.ClientConn",
      blank,
      line "// The gRPC API client.",
      line s!"{client.stubField} {client.stub.name}.{client.service.name}Client",
      blank,
      when client.hasLongRunning [
        line "// LROClient is used internally to handle long-running operations.",
        line "// It is exposed so that its CallOptions can be modified if required.",
        line "// Users should not Close this client.",
        line "LROClient *lroauto.OperationsClient",
        blank],
      line "// The call options for this service.",
      line s!"CallOptions *{client.optionsType}",
      blank,
      line "// The x-goog-* metadata to be sent with each request.",
      line "xGoogMetadata metadata.MD"],
    blank]

def returnOnError (result : String) : Code :=
  block "if err != nil " [line s!"return {result}, err"]

def constructor : Code :=
  let width := max client.stubField.utf8ByteSize "CallOptions".utf8ByteSize + 1
  seq [
    line s!"// New{client.typeName} creates a new {client.service.name} client.",
    block s!"func New{client.typeName}(ctx context.Context, opts ...option.ClientOption) (*{client.typeName}, error) " [
      line s!"conn, err := transport.DialGRPC(ctx, append(default{client.stem}ClientOptions(), opts...)...)",
      returnOnError "nil",
      block s!"c := &{client.typeName}" [
        line (padded width "conn:" ++ " conn,"),
        line (padded width "CallOptions:" ++ s!" default{client.optionsType}(),"),
        blank,
        line s!"{client.stubField}: {client.stub.name}.New{client.service.name}Client(conn),"],
      line "c.setGoogleClientInfo()",
      when client.hasLongRunning [
        blank,
        line "c.LROClient, err = lroauto.NewOperationsClient(ctx, option.WithGRPCConn(conn))",
        block "if err != nil " [
          line "// The connection is reused, so no dial happens and conn is not closed here.",
          line "return nil, err"]],
      line "return c, nil"],
    blank]

def connection : Code :=
  seq [
    line "// Connection returns the client's connection to the API service.",
    block s!"func (c *{client.typeName}) Connection() *grpc.ClientConn " [line "return c.conn"],
    blank]

def close : Code :=
  seq [
    line "// Close closes the connection to the API service. The user should invoke this when",
    line "// the client is no longer required.",
    block s!"func (c *{client.typeName}) Close() error " [line "return c.conn.Close()"],
    blank]

def clientInfo : Code :=
  seq [
    line "// setGoogleClientInfo sets the name and version of the application in",
    line "// the `x-goog-api-client` header passed on each request. Intended for",
    line "// use by Google-written clients.",
    block s!"func (c *{client.typeName}) setGoogleClientInfo(keyval ...string) " [
      line "kv := append([]string\x7b\"gl-go\", versionGo()\x7d, keyval...)",
      line "kv = append(kv, \"gapic\", versionClient, \"gax\", gax.Version, \"grpc\", grpc.Version)",
      line "c.xGoogMetadata = metadata.Pairs(\"x-goog-api-client\", gax.XGoogHeader(kv...))"],
    blank]

def scaffold : Code :=
  seq [client.optionsStruct, client.clientOptions, client.authScopes, client.callOptions,
    client.clientStruct, client.constructor, client.connection, client.close, client.clientInfo]

end ClientGen.Client
