import VehiclePid.Formula.Compile
import VehiclePid.Formula.Evaluate
import VehiclePid.Frame
import VehiclePid.Key
import VehiclePid.Value.Basic

namespace VehiclePid

structure Record where
  key : Key
  name : String
  unit : String
  width : UInt8
  type : ValueType
  /-- The conversion formula; blank text passes the raw bytes through. -/
  formula : String
  deriving DecidableEq

structure UnitId where
  index : UInt16
  deriving DecidableEq, Repr

structure Descriptor where
  key : Key
  name : String
  unit : UnitId
  width : UInt8
  type : ValueType
  source : String
  formula : Formula
  deriving DecidableEq

namespace Descriptor

/-- The raw bytes without which a payload is not interpreted. -/
def required (d : Descriptor) : Nat :=
  if d.formula.isIdentity then d.width.toNat else d.formula.operands

def result (d : Descriptor) (raw : List UInt8) : Except Formula.EvalError (Binary .double) :=
  if raw.length < d.required then .error (.insufficientBytes d.required raw.length)
  else d.formula.evaluate (raw.take d.width.toNat)

def interpret (d : Descriptor) (raw : List UInt8) : Except Formula.EvalError Value :=
  (d.result raw).map d.type.cast

end Descriptor

structure Registry where
  /-- In the order of the records. -/
  entries : List Descriptor
  units : List String

namespace Registry

abbrev maxWidth : Nat := 7

inductive BuildError
  | duplicatePid (key : Key)
  | invalidWidth (key : Key) (width : UInt8)
  | formula (key : Key) (cause : Formula.CompileError)
  | operandWidth (key : Key) (operands : Nat) (width : UInt8)
  deriving DecidableEq, Repr

def BuildError.message : BuildError → String
  | duplicatePid key => "duplicate PID: " ++ key.render
  | invalidWidth key width => key.render ++ ": invalid byte width " ++ toString width.toNat
  | formula key cause => "formula for " ++ key.render ++ ": " ++ cause.message
  | operandWidth key operands width =>
    key.render ++ ": formula uses " ++ toString operands ++ " operands but PID has " ++
      toString width.toNat ++ " bytes"

inductive LookupError
  | unknownPid (key : Key)
  | unknownUnit (unit : UnitId)
  deriving DecidableEq, Repr

def LookupError.message : LookupError → String
  | unknownPid key => "unknown PID: " ++ key.render
  | unknownUnit unit => "unknown unit id " ++ toString unit.index.toNat

def empty : Registry := ⟨[], []⟩

def get? (r : Registry) (key : Key) : Option Descriptor := r.entries.find? (·.key == key)

def contains (r : Registry) (key : Key) : Bool := r.entries.any (·.key == key)

def lookup (r : Registry) (key : Key) : Except LookupError Descriptor :=
  match r.get? key with
  | some d => .ok d
  | none => .error (.unknownPid key)

def unitName (r : Registry) (unit : UnitId) : Except LookupError String :=
  match r.units[unit.index.toNat]? with
  | some name => .ok name
  | none => .error (.unknownUnit unit)

/-- The id of a unit's name and the names with it. -/
def intern (units : List String) (name : String) : UnitId × List String :=
  match units.idxOf? name with
  | some i => (⟨.ofNat i⟩, units)
  | none => (⟨.ofNat units.length⟩, units ++ [name])

/-- Whether a record may join as far as its key and width go. -/
def admits (r : Registry) (x : Record) : Except BuildError Unit :=
  if r.contains x.key then .error (.duplicatePid x.key)
  else if x.width = 0 ∨ maxWidth < x.width.toNat then .error (.invalidWidth x.key x.width)
  else .ok ()

def add (r : Registry) (x : Record) : Except BuildError Registry := do
  r.admits x
  let formula ← (Formula.compile x.formula).mapError (.formula x.key)
  if x.width.toNat < formula.operands then
    .error (.operandWidth x.key formula.operands x.width)
  else
    let (unit, units) := intern r.units x.unit
    return ⟨r.entries ++ [⟨x.key, x.name, unit, x.width, x.type, x.formula, formula⟩], units⟩

def build (records : List Record) : Except BuildError Registry := records.foldlM add empty

def descriptors (r : Registry) : List Descriptor :=
  r.entries.mergeSort fun a b => a.key.rank ≤ b.key.rank

def size (r : Registry) : Nat := r.entries.length

end Registry

end VehiclePid
