import VehiclePid.Frame
import VehiclePid.Registry

namespace VehiclePid

/-- Added to the mode in a response. -/
abbrev responseMark : UInt8 := 0x40

/-- Builds and reads the frames of registered parameters. Byte 0 of the data counts the bytes that
follow it, byte 1 is the mode, in a response raised by 0x40, byte 2 the parameter id; the raw value
follows in a response, and padding fills the rest. -/
structure Codec where
  registry : Registry
  addressing : Addressing
  responseId : UInt16

namespace Codec

inductive Error
  | rawTooLarge (length : Nat)
  | frameTooShort (length : Nat)
  | outputTooSmall (needed available : Nat)
  | lengthMismatch (key : Key) (expected actual : Nat)
  | notAResponse (modeByte : UInt8)
  | lookup (cause : Registry.LookupError)
  | eval (cause : Formula.EvalError)
  deriving DecidableEq, Repr

def Error.message : Error → String
  | rawTooLarge length =>
    s!"raw value too large: {length} bytes, at most " ++ toString Frame.maxRaw ++
      " fit in a frame"
  | frameTooShort length => s!"frame too short: {length} bytes"
  | outputTooSmall needed available =>
    s!"output buffer too small: need {needed} bytes, got {available}"
  | lengthMismatch key expected actual =>
    key.render ++ s!": expected {expected} raw bytes, got {actual}"
  | notAResponse modeByte => "not a response frame: mode byte " ++ Hex.byte modeByte
  | lookup cause => cause.message
  | eval cause => cause.message

def standard (registry : Registry) : Codec := ⟨registry, .standard, 0x7E7⟩

def withAddressing (registry : Registry) (addressing : Addressing) :
    Except Addressing.Error Codec :=
  addressing.responseId.map fun id => ⟨registry, addressing, id⟩

def lookup (c : Codec) (key : Key) : Except Error Descriptor :=
  (c.registry.lookup key).mapError .lookup

def frame (c : Codec) (id : UInt16) (bytes : List UInt8) : Frame :=
  ⟨id, 8, Frame.fill bytes c.addressing.padding⟩

def query (c : Codec) (key : Key) : Except Error Frame := do
  let _ ← c.lookup key
  return c.frame c.addressing.queryId [2, key.mode, key.pid]

/-- The response that carries `raw`, which must have the declared width. -/
def respond (c : Codec) (key : Key) (raw : List UInt8) : Except Error Frame := do
  if Frame.maxRaw < raw.length then .error (.rawTooLarge raw.length)
  else
    let d ← c.lookup key
    if raw.length ≠ d.width.toNat then
      .error (.lengthMismatch key d.width.toNat raw.length)
    else
      return c.frame c.responseId
        (.ofNat (2 + raw.length) :: (key.mode + responseMark) :: key.pid :: raw)

/-- The stored mode and parameter id. The mode of a response still has its mark. -/
def headers (f : Frame) : Except Error Key :=
  match f.payload with
  | _ :: mode :: pid :: _ => .ok ⟨mode, pid⟩
  | short => .error (.frameTooShort short.length)

structure Decoded where
  key : Key
  descriptor : Descriptor
  raw : List UInt8
  value : Value
  deriving DecidableEq

/-- The parameter that a response is about, and its raw bytes: no more than the declared width, the
count byte and the payload allow. -/
def locate (c : Codec) (f : Frame) : Except Error (Key × Descriptor × List UInt8) := do
  let stored ← headers f
  if stored.mode < responseMark then .error (.notAResponse stored.mode)
  else
    let key : Key := ⟨stored.mode - responseMark, stored.pid⟩
    let d ← c.lookup key
    return (key, d, (f.payload.drop Frame.headerLength).take (min d.width.toNat (f.count.toNat - 2)))

def decode (c : Codec) (f : Frame) : Except Error Decoded := do
  let (key, d, raw) ← c.locate f
  let value ← (d.interpret raw).mapError .eval
  return ⟨key, d, raw, value⟩

/-- Writes the interpreted value over the first bytes of a buffer, and tells how many. The buffer
that is left is part of the result also where this fails. -/
def store (c : Codec) (f : Frame) : ExceptT Error (StateM (List UInt8)) Nat := do
  let d ← c.decode f
  let out ← get
  let width := d.value.width
  if out.length < width then throw (.outputTooSmall width out.length)
  else
    set (d.value.bytes ++ out.drop width)
    return width

end Codec

end VehiclePid
