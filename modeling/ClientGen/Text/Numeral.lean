namespace ClientGen.Text

inductive NumeralFault
  | empty
  | invalidDigit
  | tooLarge
  | tooSmall
deriving DecidableEq, Repr

def NumeralFault.message : NumeralFault → String
  | .empty => "cannot parse integer from empty string"
  | .invalidDigit => "invalid digit found in string"
  | .tooLarge => "number too large to fit in target type"
  | .tooSmall => "number too small to fit in target type"

/-- Reads on after the digits with value `n`. The first digit that leads out of the 32-bit range
ends the reading, whatever follows it. -/
def readDigits (negative : Bool) (n : Nat) : List Char → Except NumeralFault Int32
  | [] => .ok (.ofInt (if negative then -n else n))
  | c :: rest =>
    if c.isDigit then
      let m := 10 * n + (c.toNat - '0'.toNat)
      if negative && 2147483648 < m then .error .tooSmall
      else if !negative && 2147483648 ≤ m then .error .tooLarge
      else readDigits negative m rest
    else .error .invalidDigit

def readInt32 : List Char → Except NumeralFault Int32
  | [] => .error .empty
  | ['+'] | ['-'] => .error .invalidDigit
  | '+' :: rest => readDigits false 0 rest
  | '-' :: rest => readDigits true 0 rest
  | text => readDigits false 0 text

def digitsValue (digits : List Char) : Nat :=
  digits.foldl (fun n c => 10 * n + (c.toNat - '0'.toNat)) 0

def isDigits (text : List Char) : Bool :=
  !text.isEmpty && text.all Char.isDigit

def natural? : List Char → Option Nat
  | '+' :: digits => if isDigits digits then some (digitsValue digits) else none
  | digits => if isDigits digits then some (digitsValue digits) else none

def integer? : List Char → Option Int
  | '-' :: digits => if isDigits digits then some (-digitsValue digits) else none
  | text => (natural? text).map Int.ofNat

def exponent? : List Char → Option Int
  | [] => some 0
  | e :: text => if e = 'e' || e = 'E' then integer? text else none

def hexDigit? (c : Char) : Option Nat :=
  if c.isDigit then some (c.toNat - '0'.toNat)
  else if 'a' ≤ c && c ≤ 'f' then some (c.toNat - 'a'.toNat + 10)
  else if 'A' ≤ c && c ≤ 'F' then some (c.toNat - 'A'.toNat + 10)
  else none

end ClientGen.Text
