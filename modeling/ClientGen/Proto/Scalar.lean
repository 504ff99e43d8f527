import ClientGen.Schema.Types
import ClientGen.Text.Escaped
import ClientGen.Text.Floating
import ClientGen.Wire.Fold

namespace ClientGen.Proto

open Text Wire
open Schema (FieldKind)

inductive Scalar
  | text (value : String)
  | bytes (content : Bytes)
  | varint (value : Nat)
  | fixed64 (content : Bytes)
  | fixed32 (content : Bytes)
deriving DecidableEq, Repr

inductive WireForm
  | varint
  | fixed64
  | fixed32
  | block
deriving DecidableEq, Repr

def wireForm : FieldKind → WireForm
  | .double | .fixed64 | .sfixed64 => .fixed64
  | .float | .fixed32 | .sfixed32 => .fixed32
  | .string | .bytes | .message => .block
  | _ => .varint

def WireForm.wireType : WireForm → Nat
  | .varint => 0
  | .fixed64 => 1
  | .block => 2
  | .fixed32 => 5

def wordOf (size : Nat) (value : Int) : Nat :=
  (value % size).toNat

def littleEndian : (count : Nat) → Nat → Bytes
  | 0, _ => []
  | count + 1, n => .ofNat (n % 256) :: littleEndian count (n / 256)

def ofLittleEndian (bytes : Bytes) : Nat :=
  bytes.foldr (fun byte n => 256 * n + byte.toNat) 0

def zigzag (value : Int) : Nat :=
  if 0 ≤ value then (2 * value).toNat else (-2 * value - 1).toNat

namespace Scalar

/-- A varint as a field of a kind takes it: numbers of 32 bits lose the others. -/
def ofVarint (kind : FieldKind) (n : Nat) : Scalar :=
  match kind with
  | .bool => .varint (min n 1)
  | .int32 | .enum => .varint (wordOf UInt64.size (Int32.ofNat n).toInt)
  | .uint32 | .sint32 => .varint (n % UInt32.size)
  | _ => .varint n

def ofInt? (kind : FieldKind) (value : Int) : Option Scalar :=
  let within (low high : Int) (scalar : Scalar) : Option Scalar :=
    if low ≤ value && value ≤ high then some scalar else none
  match kind with
  | .int32 | .enum =>
    within Int32.minValue.toInt Int32.maxValue.toInt (.varint (wordOf UInt64.size value))
  | .sint32 => within Int32.minValue.toInt Int32.maxValue.toInt (.varint (zigzag value))
  | .sfixed32 =>
    within Int32.minValue.toInt Int32.maxValue.toInt
      (.fixed32 (littleEndian 4 (wordOf UInt32.size value)))
  | .int64 =>
    within Int64.minValue.toInt Int64.maxValue.toInt (.varint (wordOf UInt64.size value))
  | .sint64 => within Int64.minValue.toInt Int64.maxValue.toInt (.varint (zigzag value))
  | .sfixed64 =>
    within Int64.minValue.toInt Int64.maxValue.toInt
      (.fixed64 (littleEndian 8 (wordOf UInt64.size value)))
  | .uint32 => within 0 (UInt32.size - 1 : Nat) (.varint value.toNat)
  | .fixed32 => within 0 (UInt32.size - 1 : Nat) (.fixed32 (littleEndian 4 value.toNat))
  | .uint64 => within 0 (UInt64.size - 1 : Nat) (.varint value.toNat)
  | .fixed64 => within 0 (UInt64.size - 1 : Nat) (.fixed64 (littleEndian 8 value.toNat))
  | _ => none

def ofFloat (kind : FieldKind) (value : Float) : Scalar :=
  if kind = .float then .fixed32 (littleEndian 4 value.toFloat32.toBits.toNat)
  else .fixed64 (littleEndian 8 value.toBits.toNat)

/-- The number nearest to the one that a text gives, in the precision of a kind. -/
def ofFloating (kind : FieldKind) (value : Floating) : Scalar :=
  if kind = .float then .fixed32 (littleEndian 4 value.toFloat32.toBits.toNat)
  else .fixed64 (littleEndian 8 value.toFloat.toBits.toNat)

/-- Whether fields of a kind hold the same. Floating point numbers are compared as numbers: the two
zeros are the same, and what is no number differs from itself. -/
def same (kind : FieldKind) (a b : Scalar) : Bool :=
  match kind, a, b with
  | .double, .fixed64 a, .fixed64 b =>
    Float.ofBits (.ofNat (ofLittleEndian a)) == Float.ofBits (.ofNat (ofLittleEndian b))
  | .float, .fixed32 a, .fixed32 b =>
    Float32.ofBits (.ofNat (ofLittleEndian a)) == Float32.ofBits (.ofNat (ofLittleEndian b))
  | _, a, b => a == b

def zero : FieldKind → Scalar
  | .string => .text ""
  | kind =>
    match wireForm kind with
    | .varint => .varint 0
    | .fixed64 => .fixed64 (littleEndian 8 0)
    | .fixed32 => .fixed32 (littleEndian 4 0)
    | .block => .bytes []

def read? (kind : FieldKind) (bytes : Bytes) : Option (Scalar × Bytes) :=
  match wireForm kind with
  | .varint => (readVarint bytes).map fun (n, rest) => (ofVarint kind n, rest)
  | .fixed64 => (take? 8 bytes).map fun (content, rest) => (.fixed64 content, rest)
  | .fixed32 => (take? 4 bytes).map fun (content, rest) => (.fixed32 content, rest)
  | .block => do
    let (content, rest) ← readBlock bytes
    if kind = .string then return (.text (← utf8? content), rest) else return (.bytes content, rest)

end Scalar

end ClientGen.Proto
