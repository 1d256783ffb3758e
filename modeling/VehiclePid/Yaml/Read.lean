import VehiclePid.Yaml.Document
import VehiclePid.Yaml.Plain

namespace VehiclePid.Yaml

abbrev Read (α : Type) := StateT Nat Option α

namespace Read

def fail {α : Type} : Read α := fun _ => none

def follow (anchors : Anchors) (n : Node) : Read Node :=
  match n with
  | .alias slot => do
    modify (· + 1)
    match anchors.node? slot with
    | some n => return n
    | none => fail
  | _ => return n

def text (anchors : Anchors) (n : Node) : Read String := do
  match ← follow anchors n with
  | .scalar _ _ s => return s
  | _ => fail

def nullTag : String := "tag:yaml.org,2002:null"

def integerTag : String := "tag:yaml.org,2002:int"

/-- Text, or nothing for an empty or null plain scalar. A tag other than that of null makes any
plain scalar text. -/
def optionalText (anchors : Anchors) (n : Node) : Read (Option String) := do
  match ← follow anchors n with
  | .scalar tag .plain s =>
    match tag with
    | none => return if s.isEmpty || isNull s then none else some s
    | some t => if t != nullTag then return some s else if isNull s then return none else fail
  | .scalar _ _ s => return some s
  | _ => fail

/-- An integer from 0 to `limit`: a plain scalar, or a literal block tagged as one. -/
def natural (limit : Nat) (anchors : Anchors) (n : Node) : Read Nat := do
  let s ← match ← follow anchors n with
    | .scalar _ .plain s => pure s
    | .scalar tag .literal s => if tag == some integerTag then pure s else fail
    | _ => fail
  match nonNegative? limit s.toList with
  | some k => return k
  | none => fail

/-- One of a list of names, written as text or as the tag of a null or empty plain scalar. -/
def choice {α : Type} (names : List (String × α)) (anchors : Anchors) (n : Node) : Read α := do
  match ← follow anchors n with
  | .scalar tag style s =>
    let name ← match (tag.getD "").toList with
      | '!' :: c :: r =>
        if style == .plain && (s.isEmpty || isNull s) then pure (String.ofList (c :: r)) else fail
      | ['!'] => fail
      | _ => pure s
    match names.lookup name with
    | some a => return a
    | none => fail
  | _ => fail

def entries (anchors : Anchors) (n : Node) : Read (List (Node × Node)) := do
  match ← follow anchors n with
  | .mapping _ es => return es
  | .scalar _ .plain s => if s.isEmpty then return [] else fail
  | _ => fail

/-- The values of the named keys of a mapping, each of which may stand once. Other keys are text
too, but their values are not read. -/
def fields (names : List String) (anchors : Anchors) (n : Node) : Read (List (String × Node)) := do
  (← entries anchors n).foldlM (fun found (k, v) => do
    let name ← text anchors k
    if !names.contains name then return found
    else if (found.lookup name).isSome then fail
    else return (name, v) :: found) []

def field {α : Type} (found : List (String × Node)) (name : String) (default : Read α)
    (read : Node → Read α) : Read α :=
  match found.lookup name with
  | some n => read n
  | none => default

end Read

def Document.read? {α : Type} (d : Document) (blank : α) (read : Anchors → Node → Read α) :
    Option α :=
  match d.root with
  | none => some blank
  | some n => do
    let (a, followed) ← (read d.anchors n).run 0
    if followed ≤ 100 * d.size then return a else none

end VehiclePid.Yaml
