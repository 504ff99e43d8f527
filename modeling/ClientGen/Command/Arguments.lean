import ClientGen.Text.Split

namespace ClientGen

open Text

structure Arguments where
  /-- The file to read a request from. -/
  request : Option String := none
  /-- The file to read a request in its JSON form from. -/
  descriptorsJson : Option String := none
  /-- The directory to write files to. -/
  outDir : Option String := none
  logLevel : Option String := none
deriving DecidableEq, Repr

inductive Demand
  | run (arguments : Arguments)
  | version
  | help
  | usage
deriving DecidableEq, Repr

namespace Arguments

/-- Takes the value of an option. An option is given once, and paths are not empty. -/
def give (arguments : Arguments) (option value : String) : Option Arguments :=
  match option with
  | "--request" =>
    if arguments.request.isSome || value.isEmpty then none
    else some { arguments with request := some value }
  | "--descriptors-json" =>
    if arguments.descriptorsJson.isSome || value.isEmpty then none
    else some { arguments with descriptorsJson := some value }
  | "--out-dir" =>
    if arguments.outDir.isSome || value.isEmpty then none
    else some { arguments with outDir := some value }
  | "--log-level" =>
    if arguments.logLevel.isSome then none else some { arguments with logLevel := some value }
  | _ => none

def valueOptions : List String := ["--request", "--descriptors-json", "--out-dir", "--log-level"]

def isOption (arg : String) : Bool :=
  arg.toList.head? == some '-' && arg != "-"

def finish (arguments : Arguments) : Demand :=
  if arguments.request.isSome && arguments.descriptorsJson.isSome then .usage else .run arguments

/-- Reads arguments from left to right. A request for the version or for help is met when it is
reached, whatever follows it. -/
def readFrom (arguments : Arguments) : List String → Demand
  | [] => arguments.finish
  | "--" :: rest => if rest.isEmpty then arguments.finish else .usage
  | "--version" :: _ => .version
  | "--help" :: _ => .help
  | arg :: rest =>
    match arg.toList with
    | '-' :: 'V' :: _ => .version
    | '-' :: 'h' :: _ => .help
    | _ =>
      match cut '=' arg with
      | some (option, value) =>
        match arguments.give option value with
        | some arguments => readFrom arguments rest
        | none => .usage
      | none =>
        match rest with
        | value :: rest =>
          if valueOptions.contains arg && !isOption value then
            match arguments.give arg value with
            | some arguments => readFrom arguments rest
            | none => .usage
          else .usage
        | [] => .usage

def read (args : List String) : Demand :=
  readFrom {} args

end Arguments

end ClientGen
