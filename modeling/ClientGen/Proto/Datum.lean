import ClientGen.Proto.Form
import ClientGen.Wire.Message

namespace ClientGen.Proto

open Wire

/-- What a known field holds. Of an options record the bytes are kept too. -/
inductive Datum
  | number (value : Nat)
  | text (value : String)
  | blob (bytes : Bytes)
  | record (members : List (Nat × Datum))
  | options (bytes : Bytes) (members : List (Nat × Datum))

abbrev Members := List (Nat × Datum)

def readPlain (encoding : Encoding) (payload : Payload) : Option (List Datum) :=
  match encoding, payload with
  | .int, .varint n => some [.number n]
  | .ints, .varint n => some [.number n]
  | .ints, .bytes content => (readVarints content).map (·.map .number)
  | .fixed64, .fixed64 bytes => some [.blob bytes]
  | .text, .bytes content => (utf8? content).map ([.text ·])
  | .blob, .bytes content => some [.blob content]
  | _, _ => none

/-- Reads a message of known form. It may hold `budget` more levels of messages and groups; unknown
fields are left out. Any field that is kept or left out as mere bytes counts as a level. -/
def readMembers (budget : Nat) (form : Form) (bytes : Bytes) : Option Members := do
  let fields ← read? bytes
  let members ← fields.mapM fun (number, payload) =>
    match form.encoding? number, payload, budget with
    | none, payload, budget => if payload.depth ≤ budget then some [] else none
    | some (.record inner), .bytes content, budget + 1 =>
      (readMembers budget inner content).map fun members => [(number, .record members)]
    | some (.options inner), .bytes content, budget + 1 => do
      if (← read? content).all fun (_, payload) => payload.depth ≤ budget then
        return [(number, .options content (← readMembers budget inner content))]
      else none
    | some encoding, payload, _ => (readPlain encoding payload).map (·.map (number, ·))
  return members.flatten
termination_by structural budget

namespace Members

variable (members : Members) (number : Nat)

def data : List Datum :=
  (members.filter (·.1 == number)).map Prod.snd

def texts : List String :=
  (data members number).filterMap fun
    | .text value => some value
    | _ => none

def numbers : List Nat :=
  (data members number).filterMap fun
    | .number value => some value
    | _ => none

def blobs : List Bytes :=
  (data members number).filterMap fun
    | .blob bytes => some bytes
    | _ => none

def records : List Members :=
  (data members number).filterMap fun
    | .record members => some members
    | _ => none

/-- The bytes of an options record; what several occurrences give counts in order. -/
def optionBytes : Bytes :=
  ((data members number).filterMap fun
    | .options bytes _ => some bytes
    | _ => none).flatten

def optionMembers : Members :=
  ((data members number).filterMap fun
    | .options _ members => some members
    | _ => none).flatten

def text? : Option String :=
  (texts members number).getLast?

def text : String :=
  (text? members number).getD ""

def int32? : Option Int32 :=
  (numbers members number).getLast?.map .ofNat

def int32 : Int32 :=
  (int32? members number).getD 0

def bool : Bool :=
  (numbers members number).getLast?.any (· != 0)

def merged : Members :=
  (records members number).flatten

end Members

end ClientGen.Proto
