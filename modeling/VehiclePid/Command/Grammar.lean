namespace VehiclePid.Command

inductive Refusal
  | rejected
  | help (command : String)
  | version (command : String)
  deriving DecidableEq, Repr

inductive Effect
  | set
  | value
  | help
  | version
  deriving DecidableEq, Repr

/-- A switch or operand with what it takes: `Slot` names the places that values are put in. -/
structure Switch (Slot : Type) where
  slot : Slot
  letter : Option Char
  name : String
  effect : Effect

/-- Switches may stand anywhere before two hyphens, one at a time or, by their letters, several in a
word. A value follows its switch in the same word or the next; it is checked when the next switch or
operand is met, or when the words end. -/
structure Grammar (Slot : Type) where
  command : String
  switches : List (Switch Slot)
  operands : List Slot
  subcommands : List String
  accepts : Slot → String → Bool

/-- What has been read: settled values, and one that is not settled or not even there yet. -/
structure Reading (Slot : Type) where
  values : List (Slot × String)
  pending : Option (Slot × Option String)
  operands : Nat

namespace Reading

variable {Slot : Type} [DecidableEq Slot]

def empty : Reading Slot := ⟨[], none, 0⟩

def get? (x : Reading Slot) (slot : Slot) : Option String := x.values.lookup slot

def has (x : Reading Slot) (slot : Slot) : Bool := (x.get? slot).isSome

def isOpen (x : Reading Slot) : Bool :=
  match x.pending with
  | some (_, none) => true
  | _ => false

/-- Checks the pending value. A slot takes one value. -/
def settle (g : Grammar Slot) (x : Reading Slot) : Except Refusal (Reading Slot) :=
  match x.pending with
  | none => .ok x
  | some (_, none) => .error .rejected
  | some (slot, some value) =>
    if x.has slot || !g.accepts slot value then .error .rejected
    else .ok { x with values := (slot, value) :: x.values, pending := none }

def addSwitch (g : Grammar Slot) (x : Reading Slot) (s : Switch Slot) (attached : Option String) :
    Except Refusal (Reading Slot) := do
  match s.effect, attached with
  | .value, some value => settle g { ← x.settle g with pending := some (s.slot, some value) }
  | .value, none => return { ← x.settle g with pending := some (s.slot, none) }
  | _, some _ => .error .rejected
  | .help, none => discard <| x.settle g; .error (.help g.command)
  | .version, none => discard <| x.settle g; .error (.version g.command)
  | .set, none =>
    let x ← x.settle g
    if x.has s.slot then .error .rejected
    else return { x with values := (s.slot, "") :: x.values }

def addName (g : Grammar Slot) (x : Reading Slot) (cs : List Char) :
    Except Refusal (Reading Slot) :=
  let name := String.ofList (cs.takeWhile (· != '='))
  let attached := match cs.dropWhile (· != '=') with
    | _ :: value => some (String.ofList value)
    | [] => none
  match g.switches.find? (·.name == name) with
  | some s => x.addSwitch g s attached
  | none => .error .rejected

/-- Switches by their letters, after a hyphen. What follows a switch with a value is the value. -/
def addLetters (g : Grammar Slot) (x : Reading Slot) : List Char → Except Refusal (Reading Slot)
  | [] => .ok x
  | c :: r =>
    match g.switches.find? (·.letter == some c) with
    | none => .error .rejected
    | some s =>
      if s.effect = .value then
        let attached := match r with
          | [] => none
          | '=' :: value => some (String.ofList value)
          | value => some (String.ofList value)
        x.addSwitch g s attached
      else do addLetters g (← x.addSwitch g s none) r

def addOperand (g : Grammar Slot) (x : Reading Slot) (word : String) :
    Except Refusal (Reading Slot) := do
  let x ← x.settle g
  match g.operands[x.operands]? with
  | some slot => return { x with pending := some (slot, some word), operands := x.operands + 1 }
  | none => .error .rejected

/-- Reads words up to the name of a subcommand, and gives them from there on. -/
def scan (g : Grammar Slot) (x : Reading Slot) :
    List String → Except Refusal (Reading Slot × List String)
  | [] => .ok (x, [])
  | word :: rest =>
    if !x.isOpen && g.subcommands.contains word then .ok (x, word :: rest)
    else match word.toList with
      | ['-', '-'] => return (← rest.foldlM (addOperand g) x, [])
      | '-' :: '-' :: name => do scan g (← x.addName g name) rest
      | '-' :: c :: letters => do scan g (← x.addLetters g (c :: letters)) rest
      | _ =>
        match x.pending with
        | some (slot, none) => scan g { x with pending := some (slot, some word) } rest
        | _ => do scan g (← x.addOperand g word) rest

end Reading

end VehiclePid.Command
