import VehiclePid.Log.Basic
import VehiclePid.Text.Character

namespace VehiclePid

/-- Shows the events up to a rank of the targets that begin with a text. -/
structure Directive where
  target : String
  limit : Nat
  deriving DecidableEq, Repr

namespace Directive

def covers (d : Directive) (e : Event) : Bool :=
  d.target.toList.isPrefixOf e.reporter.target.toList

def rankNumber? (cs : List Char) : Option Nat :=
  let ds := match cs with
    | '+' :: r => r
    | _ => cs
  if ds.isEmpty || !ds.all Char.isDigit then none
  else some (ds.foldl (fun n c => 10 * n + (c.toNat - 48)) 0) |>.filter (· ≤ 5)

/-- The name of a level in either case, `off`, or a rank. -/
def rank? (s : String) : Option Nat :=
  let name := String.ofList (s.toList.map Char.toUpper)
  if name == "OFF" then some 0
  else (rankNumber? s.toList).or ((Level.all.find? (·.name == name)).map Level.rank)

def isStart (c : Char) : Bool := c.isAlphanum || c == '-' || c == ':' || c == '_'

/-- Reads a directive. One about spans shows nothing, as no event has a span. White space does not
separate: it is part of a target, and spoils a level. -/
def parse? (s : String) : Option (List Directive) :=
  let cs := s.toList
  let head := cs.takeWhile fun c => c != '=' && c != '['
  match (Text.trimChars cs).head?, cs.drop head.length with
  | none, _ => none
  | _, '[' :: r => if r.contains ']' then some [] else none
  | some c, rest =>
    if !isStart c then none
    else
      let target := String.ofList head
      match rest with
      | '=' :: level =>
        if cs.head?.any Text.isBlank then none
        else if level.isEmpty then some [⟨target, Level.trace.rank⟩]
        else (rank? (String.ofList level)).map fun n => [⟨target, n⟩]
      | _ =>
        match rank? target with
        | some n => some [⟨"", n⟩]
        | none => some [⟨target, Level.trace.rank⟩]

end Directive

structure Filter where
  directives : List Directive
  deriving DecidableEq, Repr

namespace Filter

def upTo (l : Level) : Filter := ⟨[⟨"", l.rank⟩]⟩

/-- Reads a filter; text without a directive shows errors only. -/
def parse? (s : String) : Option Filter := do
  let words := (s.splitOn ",").filter (!·.isEmpty)
  if words.isEmpty then return upTo .error
  else return ⟨(← words.mapM Directive.parse?).flatten⟩

/-- The directive with the longest target decides; of equal ones, the last. -/
def decisive? (f : Filter) (e : Event) : Option Directive :=
  (f.directives.filter (·.covers e)).foldl (fun best d =>
    if best.all (·.target.length ≤ d.target.length) then some d else best) none

def allows (f : Filter) (e : Event) : Bool := (f.decisive? e).any (e.level.rank ≤ ·.limit)

/-- The filter of a command: up to debug if it is to be verbose, else the one that is set, else up
to warnings. -/
def choose (verbose : Bool) (setting : Option String) : Filter :=
  if verbose then upTo .debug else (setting.bind parse?).getD (upTo .warn)

end Filter

end VehiclePid
