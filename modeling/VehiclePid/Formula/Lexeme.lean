import VehiclePid.Decimal.Literal
import VehiclePid.Formula.Basic
import VehiclePid.Text.Character

namespace VehiclePid.Formula

inductive Lexeme
  | letter (index : Nat)
  | number (text : List Char)
  | operator (op : Operator)
  | leftParen
  | rightParen
  | unknown (c : Char)
  deriving DecidableEq, Repr

structure Placed where
  lexeme : Lexeme
  position : Nat
  deriving DecidableEq, Repr

def isNumeral (c : Char) : Bool := Decimal.isDigit c || c == '.'

def Lexeme.ofChar (c : Char) : Lexeme :=
  match c with
  | '+' => .operator .add
  | '-' => .operator .sub
  | '*' => .operator .mul
  | '/' => .operator .div
  | '(' => .leftParen
  | ')' => .rightParen
  | c => if 'A' ≤ c ∧ c ≤ 'Z' then .letter (c.toNat - 65) else .unknown c

/-- Puts a numeral before what follows it, joining it to a number that begins at once. -/
def joinNumeral (c : Char) (position : Nat) (following : Option Char) (rest : List Placed) :
    List Placed :=
  match rest with
  | ⟨.number ds, p⟩ :: tail =>
    if following.any isNumeral then ⟨.number (c :: ds), position⟩ :: tail
    else ⟨.number [c], position⟩ :: ⟨.number ds, p⟩ :: tail
  | _ => ⟨.number [c], position⟩ :: rest

/-- The lexemes of a text whose first character has the given byte offset. -/
def lexemes (position : Nat) : List Char → List Placed
  | [] => []
  | c :: r =>
    let rest := lexemes (position + c.utf8Size) r
    if Text.isAsciiBlank c then rest
    else if isNumeral c then joinNumeral c position r.head? rest
    else ⟨.ofChar c, position⟩ :: rest

end VehiclePid.Formula
