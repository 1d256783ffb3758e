import VehiclePid.Binary.Round
import VehiclePid.Decimal.Layout
import VehiclePid.Text.Character

namespace VehiclePid

inductive ValueType
  | float
  | uint8
  | uint16
  | uint32
  | int8
  | int16
  | int32
  deriving DecidableEq, Repr

namespace ValueType

def all : List ValueType := [float, uint8, uint16, uint32, int8, int16, int32]

def name : ValueType → String
  | float => "float"
  | uint8 => "uint8"
  | uint16 => "uint16"
  | uint32 => "uint32"
  | int8 => "int8"
  | int16 => "int16"
  | int32 => "int32"

def ofName? (s : String) : Option ValueType := all.find? (·.name == s)

structure UnknownType where
  text : String
  deriving DecidableEq, Repr

def UnknownType.message (e : UnknownType) : String := "invalid value type: " ++ e.text

/-- A type name between white space, in either case. -/
def parse (s : String) : Except UnknownType ValueType :=
  match ofName? (String.ofList ((Text.trimChars s.toList).map Char.toLower)) with
  | some t => .ok t
  | none => .error ⟨s⟩

def size : ValueType → Nat
  | uint8 | int8 => 1
  | uint16 | int16 => 2
  | float | uint32 | int32 => 4

def isFloat (t : ValueType) : Bool := t == float

end ValueType

def littleEndian : (width : Nat) → Nat → List UInt8
  | 0, _ => []
  | width + 1, n => UInt8.ofNat n :: littleEndian width (n / 256)

def ofLittleEndian (bytes : List UInt8) : Nat := bytes.foldr (fun b n => b.toNat + 256 * n) 0

inductive Value
  | float (v : Binary .single)
  | uint8 (v : UInt8)
  | uint16 (v : UInt16)
  | uint32 (v : UInt32)
  | int8 (v : Int8)
  | int16 (v : Int16)
  | int32 (v : Int32)
  deriving DecidableEq

namespace Value

def type : Value → ValueType
  | float _ => .float
  | uint8 _ => .uint8
  | uint16 _ => .uint16
  | uint32 _ => .uint32
  | int8 _ => .int8
  | int16 _ => .int16
  | int32 _ => .int32

def width (v : Value) : Nat := v.type.size

def toDouble : Value → Binary .double
  | float v => v.convert .double
  | uint8 v => .ofNat v.toNat
  | uint16 v => .ofNat v.toNat
  | uint32 v => .ofNat v.toNat
  | int8 v => .ofInt v.toInt
  | int16 v => .ofInt v.toInt
  | int32 v => .ofInt v.toInt

def bytes : Value → List UInt8
  | float v => littleEndian 4 v.bits
  | uint8 v => littleEndian 1 v.toNat
  | uint16 v => littleEndian 2 v.toNat
  | uint32 v => littleEndian 4 v.toNat
  | int8 v => littleEndian 1 v.toUInt8.toNat
  | int16 v => littleEndian 2 v.toUInt16.toNat
  | int32 v => littleEndian 4 v.toUInt32.toNat

/-- The value of a type in the first bytes of a buffer, if they suffice. -/
def ofBytes? (t : ValueType) (bytes : List UInt8) : Option Value :=
  if bytes.length < t.size then none
  else
    let n := ofLittleEndian (bytes.take t.size)
    some <| match t with
      | .float => float (.ofBits n)
      | .uint8 => uint8 (.ofNat n)
      | .uint16 => uint16 (.ofNat n)
      | .uint32 => uint32 (.ofNat n)
      | .int8 => int8 (.ofNat n)
      | .int16 => int16 (.ofNat n)
      | .int32 => int32 (.ofNat n)

def render : Value → String
  | float v => Decimal.Layout.plain.render v
  | uint8 v => toString v.toNat
  | uint16 v => toString v.toNat
  | uint32 v => toString v.toNat
  | int8 v => toString v.toInt
  | int16 v => toString v.toInt
  | int32 v => toString v.toInt

end Value

/-- Narrows a formula's result. An integer passes through 64 bits, where it is clamped, before it
wraps to its own width. -/
def ValueType.cast (t : ValueType) (x : Binary .double) : Value :=
  let whole := x.truncate 0x7FFFFFFFFFFFFFFF
  match t with
  | float => .float (x.convert .single)
  | uint8 => .uint8 (.ofInt whole)
  | uint16 => .uint16 (.ofInt whole)
  | uint32 => .uint32 (.ofInt whole)
  | int8 => .int8 (.ofInt whole)
  | int16 => .int16 (.ofInt whole)
  | int32 => .int32 (.ofInt whole)

end VehiclePid
