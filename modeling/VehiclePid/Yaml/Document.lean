import VehiclePid.Yaml.Node
import VehiclePid.Yaml.Tokens

namespace VehiclePid.Yaml

structure Parser where
  tokens : List Token
  anchors : Anchors
  handles : List (String × String)

abbrev Parse (α : Type) := StateT Parser Option α

namespace Parser

def fail {α : Type} : Parse α := fun _ => none

def peek? : Parse (Option Token) := do return (← get).tokens.head?

def advance : Parse Unit := modify fun p => { p with tokens := p.tokens.drop 1 }

/-- Whether one of the given tokens comes next; a scalar or name is never among them. -/
def nextIn (ts : List Token) : Parse Bool := do return (← peek?).any ts.contains

def accept (t : Token) : Parse Bool := do
  if ← nextIn [t] then
    advance
    return true
  else return false

def fullTag (handle suffix : String) : Parse String := do
  if handle.isEmpty then return suffix
  else
    match (← get).handles.lookup handle with
    | some replacement => return replacement ++ suffix
    | none => fail

def anchor? : Parse (Option String) := do
  match ← peek? with
  | some (.anchor name) =>
    advance
    return some name
  | _ => return none

def tag? : Parse (Option String) := do
  match ← peek? with
  | some (.tag handle suffix) =>
    advance
    return some (← fullTag handle suffix)
  | _ => return none

def properties : Parse (Option String × Option String) := do
  match ← anchor? with
  | some name => return (some name, ← tag?)
  | none =>
    let tag ← tag?
    return (← anchor?, tag)

mutual

/-- A node. An indentless sequence is one whose entries stand at the column of its key. -/
def node : (fuel : Nat) → (block indentless : Bool) → Parse Node
  | 0, _, _ => fail
  | fuel + 1, block, indentless => do
    match ← peek? with
    | some (.alias name) =>
      advance
      match (← get).anchors.slot? name with
      | some slot => return .alias slot
      | none => fail
    | _ =>
      let (anchor, tag) ← properties
      let order := (← get).anchors.count
      if let some name := anchor then
        modify fun p => { p with anchors := p.anchors.register name }
      let n ← content fuel block indentless (anchor.isSome || tag.isSome) tag
      if anchor.isSome then
        modify fun p => { p with anchors := p.anchors.finish order n }
      return n

def content : (fuel : Nat) → (block indentless hasProperties : Bool) → Option String → Parse Node
  | 0, _, _, _, _ => fail
  | fuel + 1, block, indentless, hasProperties, tag => do
    match ← peek? with
    | some (.scalar text style) =>
      advance
      return .scalar (tag.filter (· != "!")) style text
    | some .flowSequenceStart =>
      advance
      return .sequence tag (← flowItems fuel true)
    | some .flowMappingStart =>
      advance
      return .mapping tag (← flowEntries fuel true)
    | some .blockEntry =>
      if indentless then return .sequence tag (← indentlessItems fuel)
      else if hasProperties then return .scalar tag .plain ""
      else fail
    | some t =>
      if block && t == .blockSequenceStart then
        advance
        return .sequence tag (← blockItems fuel)
      else if block && t == .blockMappingStart then
        advance
        return .mapping tag (← blockEntries fuel)
      else if hasProperties then return .scalar tag .plain ""
      else fail
    | none => if hasProperties then return .scalar tag .plain "" else fail

def nodeBefore : (fuel : Nat) → (ends : List Token) → (block indentless : Bool) → Parse Node
  | 0, _, _, _ => fail
  | fuel + 1, ends, block, indentless => do
    if ← nextIn ends then return .empty else node fuel block indentless

def blockItems : (fuel : Nat) → Parse (List Node)
  | 0 => fail
  | fuel + 1 => do
    if ← accept .blockEntry then
      let n ← nodeBefore fuel [.blockEntry, .blockEnd] true false
      return n :: (← blockItems fuel)
    else if ← accept .blockEnd then return []
    else fail

def indentlessItems : (fuel : Nat) → Parse (List Node)
  | 0 => fail
  | fuel + 1 => do
    if ← accept .blockEntry then
      let n ← nodeBefore fuel [.blockEntry, .key, .value, .blockEnd] true false
      return n :: (← indentlessItems fuel)
    else return []

def blockEntries : (fuel : Nat) → Parse (List (Node × Node))
  | 0 => fail
  | fuel + 1 => do
    if ← accept .key then
      let k ← nodeBefore fuel [.key, .value, .blockEnd] true true
      let v ← valueBefore fuel [.key, .value, .blockEnd] true
      return (k, v) :: (← blockEntries fuel)
    else if ← accept .blockEnd then return []
    else fail

def valueBefore : (fuel : Nat) → (ends : List Token) → (block : Bool) → Parse Node
  | 0, _, _ => fail
  | fuel + 1, ends, block => do
    if ← accept .value then nodeBefore fuel ends block block else return .empty

def flowItems : (fuel : Nat) → (first : Bool) → Parse (List Node)
  | 0, _ => fail
  | fuel + 1, first => do
    if ← accept .flowSequenceEnd then return []
    else if !first && !(← accept .flowEntry) then fail
    else if ← accept .flowSequenceEnd then return []
    else if ← accept .key then
      let n ← flowPair fuel
      return n :: (← flowItems fuel false)
    else
      let n ← node fuel false false
      return n :: (← flowItems fuel false)

/-- A mapping of one entry inside a flow sequence. An empty key takes the next token with it. -/
def flowPair : (fuel : Nat) → Parse Node
  | 0 => fail
  | fuel + 1 => do
    let bare ← nextIn [.value, .flowEntry, .flowSequenceEnd]
    let k ← nodeBefore fuel [.value, .flowEntry, .flowSequenceEnd] false false
    if bare then advance
    let v ← valueBefore fuel [.flowEntry, .flowSequenceEnd] false
    return .mapping none [(k, v)]

def flowEntries : (fuel : Nat) → (first : Bool) → Parse (List (Node × Node))
  | 0, _ => fail
  | fuel + 1, first => do
    if ← accept .flowMappingEnd then return []
    else if !first && !(← accept .flowEntry) then fail
    else if ← accept .flowMappingEnd then return []
    else if ← accept .key then
      let k ← nodeBefore fuel [.value, .flowEntry, .flowMappingEnd] false false
      let v ← valueBefore fuel [.flowEntry, .flowMappingEnd] false
      return (k, v) :: (← flowEntries fuel false)
    else
      let k ← node fuel false false
      return (k, .empty) :: (← flowEntries fuel false)

end

/-- The directives at the head of a document. The version is 1.1 or 1.2 and stands once, and so does
each handle. -/
def directives (version : Bool) (handles : List (String × String)) :
    List Token → Option (List (String × String) × List Token)
  | .versionDirective major minor :: r =>
    if version || major != 1 || (minor != 1 && minor != 2) then none
    else directives true handles r
  | .tagDirective handle replacement :: r =>
    if (handles.lookup handle).isSome then none
    else directives version ((handle, replacement) :: handles) r
  | ts => some (handles, ts)

def isDocumentHead : Token → Bool
  | .versionDirective .. | .tagDirective .. | .documentStart => true
  | _ => false

def standardHandles : List (String × String) := [("!", "!"), ("!!", "tag:yaml.org,2002:")]

def root (fuel : Nat) (marked : Bool) : Parse Node := do
  match ← peek? with
  | some t =>
    if marked && (isDocumentHead t || t == .documentEnd) then return .empty
    else node fuel true false
  | none => return .empty

end Parser

/-- The one document of a token list. Nothing but end marks may follow it. -/
def Document.ofTokens? (ts : List Token) : Option Document := do
  if ts.isEmpty then return ⟨none, .none⟩
  else
    let marked := ts.head?.any Parser.isDocumentHead
    let (handles, ts) ← Parser.directives false [] ts
    let ts ← if !marked then some ts
      else if ts.head? == some .documentStart then some (ts.drop 1)
      else none
    let fuel := 4 * ts.length + 4
    let (n, p) ← (Parser.root fuel marked).run ⟨ts, .none, handles ++ Parser.standardHandles⟩
    if p.tokens.all (· == .documentEnd) then return ⟨some n, p.anchors⟩ else none

def Document.parse? (s : String) : Option Document := do ofTokens? (← tokens? s.toList)

def Document.size (d : Document) : Nat := (d.root.map Node.size).getD 1

end VehiclePid.Yaml
