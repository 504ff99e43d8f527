import ClientGen.Command.Basic
import Std.Time.DateTime.PlainDateTime
import Std.Time.DateTime.Timestamp

namespace ClientGen.Program

open Std.Time

def parentOf (path : String) : String :=
  let above := (Text.pieces '/' path).dropLast
  if above = [""] then "/" else "/".intercalate above

partial def readToEnd (stream : IO.FS.Stream) (read : ByteArray) : IO ByteArray := do
  let bytes ← stream.read 65536
  if bytes.isEmpty then return read else readToEnd stream (read ++ bytes)

def system : System IO where
  readInput := do return (← readToEnd (← IO.getStdin) .empty).toList
  readFile path := do
    try return some (← IO.FS.readBinFile path).toList catch _ => return none
  writeFile path content := do
    try
      let parent := parentOf path
      unless parent.isEmpty do IO.FS.createDirAll parent
      IO.FS.writeFile path content
      return true
    catch _ => return false

def currentYear : IO Int32 := do
  let now ← Timestamp.now
  let date := PlainDateTime.ofWallTime (WallTime.ofNanoseconds now.toNanosecondsSinceUnixEpoch)
  return .ofInt date.year.toInt

end ClientGen.Program

open ClientGen in
def main (args : List String) : IO UInt32 := do
  let ending ← Command.run Program.system args (← IO.getEnv "RUST_LOG") (← Program.currentYear)
  let stdout ← IO.getStdout
  stdout.write ending.output.toByteArray
  stdout.flush
  match ending.status with
  | .success => return 0
  | .failure failure =>
    IO.eprintln (failure.message?.getD "The input cannot be read, or the output cannot be written.")
    return 1
  | .usage =>
    IO.eprintln Command.help
    return 2
