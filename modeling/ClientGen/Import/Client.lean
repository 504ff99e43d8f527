import ClientGen.Import.Package

namespace ClientGen.ClientImport

def context : ImportSpec := .ofPath "context"
def math : ImportSpec := .ofPath "math"
def time : ImportSpec := .ofPath "time"
def gax : ImportSpec := ⟨"gax", "github.com/googleapis/gax-go/v2"⟩
def proto : ImportSpec := .ofPath "github.com/golang/protobuf/proto"
def iterator : ImportSpec := .ofPath "google.golang.org/api/iterator"
def option : ImportSpec := .ofPath "google.golang.org/api/option"
def transport : ImportSpec := .ofPath "google.golang.org/api/transport"
def grpc : ImportSpec := .ofPath "google.golang.org/grpc"
def codes : ImportSpec := .ofPath "google.golang.org/grpc/codes"
def metadata : ImportSpec := .ofPath "google.golang.org/grpc/metadata"
def longrunning : ImportSpec := .ofPath "cloud.google.com/go/longrunning"
def lroauto : ImportSpec := ⟨"lroauto", "cloud.google.com/go/longrunning/autogen"⟩

def all : List ImportSpec :=
  [context, math, time, gax, proto, iterator, option, transport, grpc, codes, metadata, longrunning,
    lroauto]

def clashes (spec : ImportSpec) : Bool :=
  all.any fun other => other.path != spec.path && other.boundName == spec.boundName

/-- The import of a file's types in a client. A name that one of the client's own imports binds to
another path gets the ending `pb`. -/
def ofFile (file : Schema.File) : Except Fault ImportSpec := do
  let spec ← ImportSpec.ofFile file
  return if clashes spec then { spec with name := spec.boundName ++ "pb" } else spec

end ClientGen.ClientImport
