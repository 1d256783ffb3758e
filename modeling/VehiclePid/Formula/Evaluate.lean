import VehiclePid.Binary.Round
import VehiclePid.Formula.Basic
import VehiclePid.Stack

namespace VehiclePid.Formula

/-- How a token sequence that no formula compiles to can fail. -/
inductive Fault
  | stack (fault : Stack.Fault)
  | missingByte (index : Nat)
  | malformed (height : Nat)
  deriving DecidableEq, Repr

def Fault.message : Fault → String
  | stack fault => fault.message
  | missingByte index => s!"no payload byte {index}"
  | malformed _ => "malformed compiled formula"

inductive EvalError
  | insufficientBytes (needed available : Nat)
  | fault (fault : Fault)
  deriving DecidableEq, Repr

def EvalError.message : EvalError → String
  | insufficientBytes needed available =>
    s!"insufficient bytes: formula needs {needed}, got {available}"
  | fault f => f.message

abbrev Operands := Stack (Binary .double) tokenLimit

def step (raw : List UInt8) (s : Operands) : Token → Except Fault Operands
  | .operand index =>
    match raw[index]? with
    | some b => (s.push (.ofNat b.toNat)).mapError .stack
    | none => .error (.missingByte index)
  | .literal value => (s.push value).mapError .stack
  | .operator op => do
    let (right, s) ← s.pop.mapError .stack
    let (left, s) ← s.pop.mapError .stack
    (s.push (op.apply left right)).mapError .stack

def run (raw : List UInt8) (tokens : List Token) (s : Operands) : Except Fault Operands :=
  tokens.foldlM (step raw) s

def value (raw : List UInt8) (tokens : List Token) : Except Fault (Binary .double) := do
  let s ← run raw tokens .empty
  if s.height = 1 then return (← s.pop.mapError .stack).1 else .error (.malformed s.height)

/-- The bytes as one integer, most significant first, modulo `2 ^ 64`. -/
def bigEndian (raw : List UInt8) : UInt64 := raw.foldl (fun n b => n <<< 8 ||| b.toUInt64) 0

def evaluate (f : Formula) (raw : List UInt8) : Except EvalError (Binary .double) :=
  if raw.length < f.needed then .error (.insufficientBytes f.needed raw.length)
  else if f.isIdentity then .ok (.ofNat (bigEndian raw).toNat)
  else (value raw f.tokens).mapError .fault

end VehiclePid.Formula
