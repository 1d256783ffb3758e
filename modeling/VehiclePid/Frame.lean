import VehiclePid.Text.Character
import VehiclePid.Text.Hex

namespace VehiclePid

/-- A frame. The length code may exceed the eight bytes of data. -/
structure Frame where
  id : UInt16
  len : UInt8
  data : Vector UInt8 8
  deriving DecidableEq

namespace Frame

abbrev maxId : Nat := 0x7FF

abbrev headerLength : Nat := 3

abbrev maxRaw : Nat := 5

def fill (bytes : List UInt8) (filler : UInt8) : Vector UInt8 8 :=
  Vector.ofFn fun i => bytes.getD i filler

/-- The bytes that the length code covers. -/
def payload (f : Frame) : List UInt8 := f.data.toList.take f.len.toNat

/-- Byte 0, which counts the bytes that follow it. -/
def count (f : Frame) : UInt8 := f.data[0]

def render (f : Frame) : String := Hex.padded 3 f.id.toNat ++ "#" ++ Hex.encode f.payload

inductive ParseError
  | missingHash (text : String)
  | invalidIdentifier (text : String)
  | invalidData (text : String) (cause : Hex.DecodeError)
  | tooManyBytes (count : Nat)
  deriving DecidableEq, Repr

def ParseError.message : ParseError → String
  | missingHash text => "invalid frame: missing '#' in " ++ Text.quote text
  | invalidIdentifier text => "invalid frame: invalid identifier " ++ Text.quote text
  | invalidData text cause =>
    "invalid frame: invalid data " ++ Text.quote text ++ ": " ++ cause.message
  | tooManyBytes count => s!"invalid frame: {count} data bytes, at most 8"

def splitHash (cs : List Char) : Option (List Char × List Char) :=
  match cs.dropWhile (· != '#') with
  | _ :: data => some (cs.takeWhile (· != '#'), data)
  | [] => none

/-- Reads a frame between white space. Points may stand anywhere in the data. -/
def parse (s : String) : Except ParseError Frame := do
  let some (id, data) := splitHash (Text.trimChars s.toList) | .error (.missingHash s)
  let some id := Hex.number? maxId id | .error (.invalidIdentifier (String.ofList id))
  let bytes ← (Hex.decodeChars (data.filter (· != '.'))).mapError
    (.invalidData (String.ofList data))
  if 8 < bytes.length then .error (.tooManyBytes bytes.length)
  else return ⟨.ofNat id, .ofNat bytes.length, fill bytes 0⟩

end Frame

structure Addressing where
  queryId : UInt16
  /-- The response identifier minus the query identifier. -/
  responseOffset : UInt16
  padding : UInt8
  deriving DecidableEq, Repr

namespace Addressing

def standard : Addressing := ⟨0x7DF, 8, 0xCC⟩

inductive Error
  | outOfRange (queryId responseOffset : UInt16)
  deriving DecidableEq, Repr

def Error.message : Error → String
  | outOfRange queryId responseOffset =>
    "invalid CAN addressing: query id 0x" ++ Hex.padded 3 queryId.toNat ++ " plus offset " ++
      toString responseOffset.toNat ++ " must stay within 0x7FF"

/-- The identifier of responses. Both identifiers must have 11 bits. -/
def responseId (a : Addressing) : Except Error UInt16 :=
  if a.queryId.toNat + a.responseOffset.toNat ≤ Frame.maxId then
    .ok (a.queryId + a.responseOffset)
  else .error (.outOfRange a.queryId a.responseOffset)

end Addressing

end VehiclePid
