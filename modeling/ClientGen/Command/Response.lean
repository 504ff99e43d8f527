import ClientGen.Run
import ClientGen.Wire.Message

namespace ClientGen

open Wire

def OutputFile.toField (file : OutputFile) : Field :=
  (15, .bytes (write [textField 1 file.name, textField 15 file.content]))

def Output.toFields (output : Output) : List Field :=
  (output.error.map (textField 1)).toList ++ [(2, .varint 1)] ++ output.files.map (·.toField)

def Output.toBytes (output : Output) : Bytes :=
  write output.toFields

end ClientGen
