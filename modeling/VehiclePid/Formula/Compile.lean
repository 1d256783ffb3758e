import VehiclePid.Formula.Lexeme
import VehiclePid.Stack

namespace VehiclePid.Formula

inductive CompileError
  | unbalancedParens
  | tokenOverflow (limit : Nat)
  | unknownToken (token : Char) (position : Nat)
  | nonContiguousOperand (expected found : Char)
  | unexpectedToken (position : Nat)
  | unexpectedEnd
  | invalidLiteral (text : String)
  /-- A stack was used out of bounds, which the checks before each use rule out. -/
  | stackFault (fault : Stack.Fault)
  deriving DecidableEq, Repr

def CompileError.message : CompileError → String
  | unbalancedParens => "unbalanced parentheses"
  | tokenOverflow limit => s!"formula exceeds {limit} tokens"
  | unknownToken token position => s!"unknown token '{token}' at position {position}"
  | nonContiguousOperand expected found => s!"operand '{found}' used before '{expected}'"
  | unexpectedToken position => s!"unexpected token at position {position}"
  | unexpectedEnd => "unexpected end of formula"
  | invalidLiteral text => s!"invalid numeric literal: {text}"
  | stackFault fault => fault.message

inductive Pending
  | leftParen
  | operator (op : Operator)
  deriving DecidableEq, Repr, Inhabited

/-- What the grammar admits next: an operand, literal or opening parenthesis, or else an operator
or closing parenthesis. -/
inductive Expected
  | operand
  | operator
  deriving DecidableEq, Repr

/-- Operators wait until one that binds no tighter, a closing parenthesis or the end releases them.
A letter may be used once all letters before it have been. -/
structure Scan where
  output : Stack Token tokenLimit
  pending : Stack Pending tokenLimit
  expected : Expected
  letters : Nat

namespace Scan

def start : Scan := ⟨.empty, .empty, .operand, 0⟩

def expect (s : Scan) (e : Expected) (position : Nat) : Except CompileError Unit :=
  if s.expected = e then .ok () else .error (.unexpectedToken position)

def pushOn {α : Type} (stack : Stack α tokenLimit) (a : α) :
    Except CompileError (Stack α tokenLimit) :=
  if stack.isFull then .error (.tokenOverflow tokenLimit)
  else (stack.push a).mapError .stackFault

def emit (s : Scan) (t : Token) : Except CompileError Scan := do
  return { s with output := ← pushOn s.output t }

def suspend (s : Scan) (p : Pending) : Except CompileError Scan := do
  return { s with pending := ← pushOn s.pending p }

def release (s : Scan) : Except CompileError Scan := do
  let (_, pending) ← s.pending.pop.mapError .stackFault
  return { s with pending }

/-- Moves the newest operators to the output while `p` holds, at most `n` of them. -/
def drain (p : Operator → Bool) : (n : Nat) → Scan → Except CompileError Scan
  | 0, s => .ok s
  | n + 1, s =>
    match s.pending.peek? with
    | some (.operator op) =>
      if p op then do drain p n (← (← s.release).emit (.operator op)) else .ok s
    | _ => .ok s

def drainWhile (p : Operator → Bool) (s : Scan) : Except CompileError Scan :=
  s.drain p s.pending.height

def letter (s : Scan) (position index : Nat) : Except CompileError Scan := do
  s.expect .operand position
  if s.letters < index then
    .error (.nonContiguousOperand (VehiclePid.letter s.letters) (VehiclePid.letter index))
  else
    let s ← s.emit (.operand index)
    return { s with expected := .operator, letters := max s.letters (index + 1) }

def number (s : Scan) (position : Nat) (text : List Char) : Except CompileError Scan := do
  let some value := Decimal.literal? text | .error (.invalidLiteral (String.ofList text))
  s.expect .operand position
  let s ← s.emit (.literal value)
  return { s with expected := .operator }

/-- Equal precedence releases too, so operators associate to the left. -/
def operator (s : Scan) (position : Nat) (op : Operator) : Except CompileError Scan := do
  s.expect .operator position
  let s ← s.drainWhile (op.precedence ≤ ·.precedence)
  let s ← s.suspend (.operator op)
  return { s with expected := .operand }

def leftParen (s : Scan) (position : Nat) : Except CompileError Scan := do
  s.expect .operand position
  s.suspend .leftParen

def rightParen (s : Scan) (position : Nat) : Except CompileError Scan := do
  s.expect .operator position
  let s ← s.drainWhile fun _ => true
  match s.pending.peek? with
  | some _ => s.release
  | none => .error .unbalancedParens

def step (s : Scan) (x : Placed) : Except CompileError Scan :=
  match x.lexeme with
  | .letter index => s.letter x.position index
  | .number text => s.number x.position text
  | .operator op => s.operator x.position op
  | .leftParen => s.leftParen x.position
  | .rightParen => s.rightParen x.position
  | .unknown c => .error (.unknownToken c x.position)

def finish (s : Scan) : Except CompileError Formula := do
  if s.expected = .operand then .error .unexpectedEnd
  else
    let s ← s.drainWhile fun _ => true
    if s.pending.isEmpty then return ⟨s.output.toList, s.letters⟩
    else .error .unbalancedParens

end Scan

def compileChars (cs : List Char) : Except CompileError Formula :=
  if cs.all Text.isBlank then .ok identity
  else do (← (lexemes 0 cs).foldlM Scan.step Scan.start).finish

def compile (source : String) : Except CompileError Formula := compileChars source.toList

end VehiclePid.Formula
