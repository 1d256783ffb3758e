import VehiclePid.Dictionary
import VehiclePid.Registry

namespace VehiclePid

namespace Schema

structure Info where
  name : Option String
  version : Option String
  description : Option String
  deriving DecidableEq

def Info.blank : Info := ⟨none, none, none⟩

structure Entry where
  name : String
  width : UInt8
  unit : String
  type : ValueType
  formula : String
  deriving DecidableEq

structure File where
  info : Info
  addressing : Addressing
  modes : Dictionary (Dictionary Entry)
  deriving DecidableEq

def File.blank : File := ⟨.blank, .standard, .empty⟩

structure FileFormat where
  read? : String → Option File
  write : File → String

end Schema

structure Schema where
  info : Schema.Info
  addressing : Addressing
  records : List Record
  deriving DecidableEq

namespace Schema

inductive LoadError
  | yaml
  | addressing (cause : Addressing.Error)
  | invalidId (cause : InvalidId)
  deriving DecidableEq, Repr

def LoadError.message : LoadError → String
  | yaml => "YAML parse error: not a schema"
  | addressing cause => cause.message
  | invalidId cause => cause.message

def Entry.record (e : Entry) (key : Key) : Record :=
  ⟨key, e.name, e.unit, e.width, e.type, e.formula⟩

def Entry.ofRecord (x : Record) : Entry := ⟨x.name, x.width, x.unit, x.type, x.formula⟩

def modeRecords (mode : UInt8) (entries : Dictionary Entry) : Except InvalidId (List Record) :=
  entries.entries.mapM fun (pid, e) => do return e.record ⟨mode, ← parseId pid⟩

def fileRecords (modes : Dictionary (Dictionary Entry)) : Except InvalidId (List Record) := do
  let lists ← modes.entries.mapM fun (mode, entries) => do modeRecords (← parseId mode) entries
  return lists.flatten

/-- The schema of a file. Records are sorted by their keys; those with one key keep the order of
their text keys. -/
def ofFile (f : File) : Except LoadError Schema := do
  discard <| f.addressing.responseId.mapError .addressing
  let records ← (fileRecords f.modes).mapError .invalidId
  return ⟨f.info, f.addressing, records.mergeSort fun a b => a.key.rank ≤ b.key.rank⟩

/-- The file of a schema. Of records with one key the last stays. -/
def toFile (s : Schema) : File :=
  { info := s.info
    addressing := s.addressing
    modes := s.records.foldl (fun modes x =>
      let mode := Hex.byte x.key.mode
      let entries := (modes.get? mode).getD .empty
      modes.insert mode (entries.insert (Hex.byte x.key.pid) (.ofRecord x))) .empty }

namespace FileFormat

def parse (format : FileFormat) (s : String) : Except LoadError Schema :=
  match format.read? s with
  | none => .error .yaml
  | some f => ofFile f

def render (format : FileFormat) (s : Schema) : String := format.write s.toFile

end FileFormat

def registry (s : Schema) : Except Registry.BuildError Registry := Registry.build s.records

end Schema

end VehiclePid
