import ClientGen.Text.Numeral

namespace ClientGen.Text

namespace Escaped

/-- Where the reading of a text with escapes stands: between escapes, after a backslash, or among
digits, of which so many more may or must follow. -/
inductive State
  | plain
  | begun
  | octal (more : Nat) (value : UInt8)
  | hexadecimal (due : Nat) (value : UInt8)
deriving DecidableEq, Repr

def shortEscape? : Char → Option UInt8
  | 'a' => some 7
  | 'b' => some 8
  | 't' => some 9
  | 'n' => some 10
  | 'v' => some 11
  | 'f' => some 12
  | 'r' => some 13
  | '"' => some 34
  | '\'' => some 39
  | '?' => some 63
  | '\\' => some 92
  | _ => none

def octalDigit? (c : Char) : Option UInt8 :=
  if '0' ≤ c && c ≤ '7' then some (.ofNat (c.toNat - '0'.toNat)) else none

def plainStep (c : Char) : List UInt8 × State :=
  if c = '\\' then ([], .begun) else (String.utf8EncodeChar c, .plain)

def begunStep (c : Char) : Option (List UInt8 × State) :=
  match octalDigit? c with
  | some digit => some ([], .octal 2 digit)
  | none =>
    if c = 'x' || c = 'X' then some ([], .hexadecimal 2 0)
    else (shortEscape? c).map fun byte => ([byte], .plain)

def step : State → Char → Option (List UInt8 × State)
  | .plain, c => some (plainStep c)
  | .begun, c => begunStep c
  | .octal more value, c =>
    match more, octalDigit? c with
    | more + 1, some digit => some ([], .octal more (8 * value + digit))
    | _, _ =>
      let (bytes, state) := plainStep c
      some (value :: bytes, state)
  | .hexadecimal due value, c =>
    if due = 2 && c = '+' then some ([], .hexadecimal 1 0)
    else (hexDigit? c).map fun digit =>
      let value := 16 * value + .ofNat digit
      if due ≤ 1 then ([value], .plain) else ([], .hexadecimal (due - 1) value)

def finish? : State → Option (List UInt8)
  | .plain => some []
  | .octal _ value => some [value]
  | _ => none

def read? (state : State) : List Char → Option (List UInt8)
  | [] => finish? state
  | c :: rest => do
    let (bytes, state) ← step state c
    return bytes ++ (← read? state rest)

end Escaped

/-- The bytes that a text with escapes stands for. After a backslash comes a letter or mark, one to
three octal digits, or `x` and two hexadecimal digits. A plus sign may stand for the first of these
two; it counts as zero. -/
def unescaped? (text : String) : Option (List UInt8) :=
  Escaped.read? .plain text.toList

end ClientGen.Text
