import ClientGen.Json.Value
import ClientGen.Text.Numeral

namespace ClientGen.Json

open Text

inductive Token
  | beginArray
  | endArray
  | beginObject
  | endObject
  | colon
  | comma
  | atom (value : Json)
deriving Repr

def isSpace (c : Char) : Bool :=
  c == ' ' || c == '\n' || c == '\t' || c == '\r'

def punctuation : Char → Option Token
  | '[' => some .beginArray
  | ']' => some .endArray
  | '\x7b' => some .beginObject
  | '\x7d' => some .endObject
  | ':' => some .colon
  | ',' => some .comma
  | _ => none

def isTail : List Char → Bool
  | '.' :: rest =>
    isDigits (rest.takeWhile Char.isDigit) && (exponent? (rest.dropWhile Char.isDigit)).isSome
  | rest => (exponent? rest).isSome

/-- Reads a numeral. The whole part has no needless zero in front. -/
def Number.read? (numeral : List Char) : Option Number :=
  let (negative, unsigned) := match numeral with
    | '-' :: rest => (true, rest)
    | rest => (false, rest)
  let whole := unsigned.takeWhile Char.isDigit
  let tail := unsigned.dropWhile Char.isDigit
  if whole.isEmpty || (whole.head? == some '0' && whole.length != 1) || !isTail tail then none
  else if tail.isEmpty then some (.integer negative (digitsValue whole))
  else some (.decimal (.ofList numeral))

def bare? : List Char → Option Json
  | ['n', 'u', 'l', 'l'] => some .null
  | ['t', 'r', 'u', 'e'] => some (.bool true)
  | ['f', 'a', 'l', 's', 'e'] => some (.bool false)
  | numeral => (Number.read? numeral).map .number

def isHigh (unit : Nat) : Bool := 0xD800 ≤ unit && unit < 0xDC00

def isLow (unit : Nat) : Bool := 0xDC00 ≤ unit && unit < 0xE000

/-- The characters that units stand for: a pair of surrogates is one character, and half a pair is
none. -/
def charsOfUnits : List Nat → Option (List Char)
  | [] => some []
  | [unit] => if isHigh unit || isLow unit then none else some [Char.ofNat unit]
  | unit :: next :: rest =>
    if isHigh unit && isLow next then
      (charsOfUnits rest).map (Char.ofNat (0x10000 + (unit - 0xD800) * 0x400 + (next - 0xDC00)) :: ·)
    else if isHigh unit || isLow unit then none
    else (charsOfUnits (next :: rest)).map (Char.ofNat unit :: ·)

def escaped? : Char → Option Char
  | '"' => some '"'
  | '\\' => some '\\'
  | '/' => some '/'
  | 'b' => some '\x08'
  | 'f' => some '\x0c'
  | 'n' => some '\n'
  | 'r' => some '\r'
  | 't' => some '\t'
  | _ => none

/-- Where a scan stands. What a token has shown so far is held in reverse; `code` also counts the
hexadecimal digits still due. -/
inductive Scan
  | between
  | bare (read : List Char)
  | quoted (read : List Nat)
  | escape (read : List Nat)
  | code (read : List Nat) (due value : Nat)
deriving Repr

structure Scanner where
  tokens : List Token
  scan : Scan
deriving Repr

namespace Scanner

def start : Scanner := ⟨[], .between⟩

/-- Between tokens, `c` is space, a mark of its own, or the beginning of a token. -/
def begin (tokens : List Token) (c : Char) : Scanner :=
  if isSpace c then ⟨tokens, .between⟩
  else match punctuation c with
    | some mark => ⟨mark :: tokens, .between⟩
    | none => if c = '"' then ⟨tokens, .quoted []⟩ else ⟨tokens, .bare [c]⟩

def step : Scanner → Char → Option Scanner
  | ⟨tokens, .between⟩, c => some (begin tokens c)
  | ⟨tokens, .bare read⟩, c =>
    if isSpace c || (punctuation c).isSome then
      (bare? read.reverse).map fun value => begin (.atom value :: tokens) c
    else some ⟨tokens, .bare (c :: read)⟩
  | ⟨tokens, .quoted read⟩, c =>
    if c = '"' then
      some ⟨.atom (.string ((charsOfUnits read.reverse).map .ofList)) :: tokens, .between⟩
    else if c = '\\' then some ⟨tokens, .escape read⟩
    else if c.toNat < 0x20 then none
    else some ⟨tokens, .quoted (c.toNat :: read)⟩
  | ⟨tokens, .escape read⟩, c =>
    if c = 'u' then some ⟨tokens, .code read 4 0⟩
    else (escaped? c).map fun d => ⟨tokens, .quoted (d.toNat :: read)⟩
  | ⟨tokens, .code read due value⟩, c =>
    (hexDigit? c).map fun digit =>
      let value := 16 * value + digit
      if due ≤ 1 then ⟨tokens, .quoted (value :: read)⟩ else ⟨tokens, .code read (due - 1) value⟩

def finish : Scanner → Option (List Token)
  | ⟨tokens, .between⟩ => some tokens.reverse
  | ⟨tokens, .bare read⟩ => (bare? read.reverse).map fun value => (Token.atom value :: tokens).reverse
  | _ => none

end Scanner

def tokens? (text : List Char) : Option (List Token) :=
  (text.foldlM Scanner.step .start).bind Scanner.finish

end ClientGen.Json
