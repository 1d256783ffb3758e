import VehiclePid.Yaml.Token

namespace VehiclePid.Yaml

inductive Node
  | scalar (tag : Option String) (style : Style) (text : String)
  | sequence (tag : Option String) (items : List Node)
  | mapping (tag : Option String) (entries : List (Node × Node))
  | alias (slot : Nat)
  deriving Inhabited

/-- A plain scalar without text or tag, which stands where a node is left out. -/
def Node.empty : Node := .scalar none .plain ""

mutual

/-- The marks that a node takes: one for a scalar or alias, two for the ends of a collection. -/
def Node.size : Node → Nat
  | .scalar .. | .alias _ => 1
  | .sequence _ items => 2 + itemsSize items
  | .mapping _ entries => 2 + entriesSize entries

def itemsSize : List Node → Nat
  | [] => 0
  | n :: r => n.size + itemsSize r

def entriesSize : List (Node × Node) → Nat
  | [] => 0
  | (k, v) :: r => k.size + v.size + entriesSize r

end

/-- Anchored nodes. A slot holds the node last put there; a name has the slot that it was last
given. -/
structure Anchors where
  names : List (String × Nat)
  slots : List (Nat × Nat)
  nodes : List (Nat × Node)
  count : Nat

namespace Anchors

def none : Anchors := ⟨[], [], [], 0⟩

/-- Puts the node that begins here into the slot of a name. The slot is numbered by the names known
before. -/
def register (a : Anchors) (name : String) : Anchors :=
  let slot := a.names.length
  { a with
    names := (name, slot) :: a.names.filter (·.1 != name)
    slots := (slot, a.count) :: a.slots
    count := a.count + 1 }

def finish (a : Anchors) (order : Nat) (n : Node) : Anchors :=
  { a with nodes := (order, n) :: a.nodes }

def slot? (a : Anchors) (name : String) : Option Nat := a.names.lookup name

def node? (a : Anchors) (slot : Nat) : Option Node := do a.nodes.lookup (← a.slots.lookup slot)

end Anchors

structure Document where
  root : Option Node
  anchors : Anchors

end VehiclePid.Yaml
