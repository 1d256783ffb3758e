import VehiclePid.Schema.Generic
import VehiclePid.Yaml.Read
import VehiclePid.Yaml.Writer

namespace VehiclePid.Schema

open VehiclePid.Yaml

namespace Info

def read (anchors : Anchors) (n : Node) : Read Info := do
  let found ← Read.fields ["name", "version", "description"] anchors n
  let text (name : String) := Read.field found name (pure none) (Read.optionalText anchors)
  return ⟨← text "name", ← text "version", ← text "description"⟩

def tree (x : Info) : Tree :=
  let text (name : String) (value : Option String) := value.toList.map fun s => (name, Tree.text s)
  .mapping <| text "name" x.name ++ text "version" x.version ++ text "description" x.description

end Info

def readAddressing (anchors : Anchors) (n : Node) : Read Addressing := do
  let found ← Read.fields ["query_id", "response_offset", "padding"] anchors n
  let number (name : String) (limit default : Nat) :=
    Read.field found name (pure default) (Read.natural limit anchors)
  let standard := Addressing.standard
  let queryId ← number "query_id" 0xFFFF standard.queryId.toNat
  let responseOffset ← number "response_offset" 0xFFFF standard.responseOffset.toNat
  let padding ← number "padding" 0xFF standard.padding.toNat
  return ⟨.ofNat queryId, .ofNat responseOffset, .ofNat padding⟩

def addressingTree (a : Addressing) : Tree :=
  .mapping [("query_id", .number a.queryId.toNat),
    ("response_offset", .number a.responseOffset.toNat), ("padding", .number a.padding.toNat)]

namespace Entry

def read (anchors : Anchors) (n : Node) : Read Entry := do
  let found ← Read.fields ["name", "bytes", "unit", "type", "expr"] anchors n
  let name ← Read.field found "name" Read.fail (Read.text anchors)
  let width ← Read.field found "bytes" Read.fail (Read.natural 0xFF anchors)
  let unit ← Read.field found "unit" (pure "") (Read.text anchors)
  let type ← Read.field found "type" Read.fail
    (Read.choice (ValueType.all.map fun t => (t.name, t)) anchors)
  let formula ← Read.field found "expr" (pure "") (Read.text anchors)
  return ⟨name, .ofNat width, unit, type, formula⟩

def tree (e : Entry) : Tree :=
  .mapping <| [("name", .text e.name), ("bytes", .number e.width.toNat), ("unit", .text e.unit),
    ("type", .text e.type.name)] ++ if e.formula.isEmpty then [] else [("expr", .text e.formula)]

end Entry

def readDictionary {α : Type} (value : Anchors → Node → Read α) (anchors : Anchors) (n : Node) :
    Read (Dictionary α) := do
  let es ← (← Read.entries anchors n).mapM fun (k, v) => do
    return (← Read.text anchors k, ← value anchors v)
  return .ofList es

def dictionaryTree {α : Type} (value : α → Tree) (d : Dictionary α) : Tree :=
  .mapping (d.entries.map fun (k, a) => (k, value a))

namespace File

def read (anchors : Anchors) (n : Node) : Read File := do
  let found ← Read.fields ["meta", "codec", "modes"] anchors n
  let info ← Read.field found "meta" (pure .blank) (Info.read anchors)
  let addressing ← Read.field found "codec" (pure .standard) (readAddressing anchors)
  let modes ← Read.field found "modes" (pure .empty)
    (readDictionary (readDictionary Entry.read) anchors)
  return ⟨info, addressing, modes⟩

/-- The file with this text, if the text is YAML and has the shape of a schema. -/
def parse? (s : String) : Option File := do (← Document.parse? s).read? .blank read

theorem parse?_ofList (cs : List Char) : parse? (.ofList cs) =
    (tokens? cs).bind fun ts => (Document.ofTokens? ts).bind (·.read? .blank read) := by
  simp only [parse?, Document.parse?, String.toList_ofList, bind, Option.bind_assoc]

def render (f : File) : String :=
  Yaml.render [("meta", f.info.tree), ("codec", addressingTree f.addressing),
    ("modes", dictionaryTree (dictionaryTree Entry.tree) f.modes)]

end File

def yaml : FileFormat := ⟨File.parse?, File.render⟩

def parse (s : String) : Except LoadError Schema := yaml.parse s

def render (s : Schema) : String := yaml.render s

/-- The generic schema. A file that is no schema would leave it without parameters. -/
def generic : Schema := yaml.generic.toOption.getD ⟨.blank, .standard, []⟩

end VehiclePid.Schema
