namespace ClientGen

structure Page (α : Type) where
  items : List α
  /-- Empty on the last page. -/
  nextToken : String

/-- The state of an iterator over pages: what it has fetched and not yet given out, and how to go
on. -/
structure Pager (α ε : Type) where
  buffer : List α := []
  pageSize : Int32
  token : String := ""
  lastPage : Bool := false
  failure : Option ε := none

namespace Pager

/-- Why an iterator gives no item. It stays so for ever. -/
inductive Stop (ε : Type)
  | done
  | failed (error : ε)

def Stop.message : Stop String → String
  | .done => "no more items in iterator"
  | .failed error => s!"fetch failed: {error}"

structure Outcome (α ε : Type) where
  result : Except (Stop ε) α
  pager : Pager α ε
  fetches : List (Int32 × String)
  answers : List (Except ε (Page α))

variable {α ε : Type}

def clampPageSize (size : Nat) : Int32 :=
  .ofInt (min size 2147483647)

def start (size : Nat) : Pager α ε :=
  { pageSize := clampPageSize size }

def ready? (pager : Pager α ε) : Option (Except (Stop ε) α × Pager α ε) :=
  match pager.failure, pager.buffer, pager.lastPage with
  | some error, _, _ => some (.error (.failed error), pager)
  | none, item :: buffer, _ => some (.ok item, { pager with buffer })
  | none, [], true => some (.error .done, pager)
  | none, [], false => none

def receive (pager : Pager α ε) : Except ε (Page α) → Pager α ε
  | .ok page => { pager with
      buffer := pager.buffer ++ page.items
      lastPage := page.nextToken.isEmpty
      token := page.nextToken }
  | .error error => { pager with failure := some error }

/-- Asks for the next item and fetches as many pages as that takes. The server gives `answers`, one
a fetch; the call is still waiting if they run out. -/
def next (pager : Pager α ε) (answers : List (Except ε (Page α))) : Option (Outcome α ε) :=
  match pager.ready?, answers with
  | some (result, pager), _ => some ⟨result, pager, [], answers⟩
  | none, [] => none
  | none, answer :: rest =>
    (next (pager.receive answer) rest).map fun outcome =>
      { outcome with fetches := (pager.pageSize, pager.token) :: outcome.fetches }

end Pager

end ClientGen
