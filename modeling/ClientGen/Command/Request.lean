import ClientGen.Command.Failure
import ClientGen.Proto.ToSchema

namespace ClientGen

open Proto

def Schema.ofDescriptors? (descriptors : List Wire.Bytes) : Option (List Schema.File) := do
  let files ← descriptors.mapM FileDecl.read?
  (← Linked.ofFiles? files).toSchema?

/-- Reads a request as a compiler of schemas writes it. The request itself may be malformed, or a
file in it, or its files may not agree. -/
def Schema.Request.ofBytes (bytes : Wire.Bytes) : Except Failure Schema.Request :=
  match readMembers nestingLimit .request bytes with
  | none => .error .decode
  | some members =>
    match Schema.ofDescriptors? (members.blobs 15) with
    | none => .error .descriptor
    | some files => .ok {
        files
        filesToGenerate := members.texts 1
        parameter := members.text? 2 }

end ClientGen
