import ClientGen.Text.Numeral

namespace ClientGen.Text

/-- A floating point number as a text gives it. A decimal is a number of digits times a power of
ten. -/
inductive Floating
  | nan
  | infinite (negative : Bool)
  | decimal (negative : Bool) (digits : Nat) (exponent : Int)
deriving DecidableEq, Repr

namespace Floating

def readDecimal? (negative : Bool) (text : List Char) : Option Floating :=
  let whole := text.takeWhile Char.isDigit
  let (places, rest) := match text.dropWhile Char.isDigit with
    | '.' :: rest => rest.span Char.isDigit
    | rest => ([], rest)
  if (whole ++ places).isEmpty then none
  else (exponent? rest).map fun exponent =>
    .decimal negative (digitsValue (whole ++ places)) (exponent - places.length)

def read? (text : List Char) : Option Floating :=
  let (negative, unsigned) := match text with
    | '-' :: rest => (true, rest)
    | '+' :: rest => (false, rest)
    | rest => (false, rest)
  match String.ofList (unsigned.map Char.toLower) with
  | "nan" => some .nan
  | "inf" | "infinity" => some (.infinite negative)
  | _ => readDecimal? negative unsigned

/-- A power of ten beyond the numbers of double precision; its inverse is too small for them. -/
def reach : Nat := 400

/-- A power of ten that is as good as `exponent` with these digits, and not much beyond `reach`. -/
def nearPower (digits : Nat) (exponent : Int) : Int :=
  max (-(reach + digits.log2 : Nat)) (min reach exponent)

def toFloat : Floating → Float
  | nan => 0 / 0
  | infinite negative => if negative then -1 / 0 else 1 / 0
  | decimal negative digits exponent =>
    let power := nearPower digits exponent
    let size := Float.ofScientific digits (power < 0) power.natAbs
    if negative then -size else size

def toFloat32 : Floating → Float32
  | nan => 0 / 0
  | infinite negative => if negative then -1 / 0 else 1 / 0
  | decimal negative digits exponent =>
    let power := nearPower digits exponent
    let size := Float32.ofScientific digits (power < 0) power.natAbs
    if negative then -size else size

end Floating

def isFloat (text : List Char) : Bool :=
  (Floating.read? text).isSome

end ClientGen.Text
