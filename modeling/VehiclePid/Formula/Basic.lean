import VehiclePid.Binary.Basic
import VehiclePid.Decimal.Layout

namespace VehiclePid

inductive Operator
  | add
  | sub
  | mul
  | div
  deriving DecidableEq, Repr, Inhabited

namespace Operator

def precedence : Operator → Nat
  | add | sub => 1
  | mul | div => 2

/-- Division by zero gives an infinity, or NaN for `0 / 0`. -/
def apply : Operator → Binary .double → Binary .double → Binary .double
  | add, x, y => x + y
  | sub, x, y => x - y
  | mul, x, y => x * y
  | div, x, y => x / y

def symbol : Operator → Char
  | add => '+'
  | sub => '-'
  | mul => '*'
  | div => '/'

end Operator

def letter (index : Nat) : Char := Char.ofNat (65 + index)

inductive Token
  | operand (index : Nat)
  | literal (value : Binary .double)
  | operator (op : Operator)
  deriving DecidableEq, Inhabited

def Token.render : Token → String
  | operand index => String.ofList [letter index]
  | literal value => Decimal.Layout.plain.render value
  | operator op => String.ofList [op.symbol]

/-- A compiled formula. Without tokens it is the identity: the raw bytes, most significant first,
are the value. -/
structure Formula where
  tokens : List Token
  /-- The number of distinct operands. -/
  operands : Nat
  deriving DecidableEq

namespace Formula

/-- The capacity of the stacks that compile and evaluate formulas. -/
abbrev tokenLimit : Nat := 32

def identity : Formula := ⟨[], 0⟩

def isIdentity (f : Formula) : Bool := f.tokens.isEmpty

def needed (f : Formula) : Nat := if f.isIdentity then 1 else f.operands

def render (f : Formula) : String :=
  if f.isIdentity then "<identity>" else " ".intercalate (f.tokens.map Token.render)

end Formula

end VehiclePid
