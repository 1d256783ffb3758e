import VehiclePid.Command.Output
import VehiclePid.Command.Invocation
import VehiclePid.Log.Events
import VehiclePid.Log.Filter
import VehiclePid.Schema.Yaml

namespace VehiclePid.Command

inductive FileFault
  | notFound
  | isDirectory
  | notDirectory
  | notText
  | other (message : String)
  deriving DecidableEq, Repr

def FileFault.message : FileFault → String
  | notFound => "No such file or directory (os error 2)"
  | isDirectory => "Is a directory (os error 21)"
  | notDirectory => "Not a directory (os error 20)"
  | notText => "stream did not contain valid UTF-8"
  | other message => message

def fileText (bytes : ByteArray) : Except FileFault String :=
  match String.fromUTF8? bytes with
  | some s => .ok s
  | none => .error .notText

abbrev Attempt := ExceptT Failure (StateM (List Event))

namespace Attempt

def emit (es : List Event) : Attempt Unit := modify (· ++ es)

def orFail {ε α : Type} (r : Except ε α) (failure : ε → Failure) : Attempt α :=
  match r with
  | .ok a => pure a
  | .error e => throw (failure e)

end Attempt

open Attempt

def loadCauses : Schema.LoadError → List String
  | .yaml => [Schema.LoadError.message .yaml, Schema.LoadError.message .yaml]
  | e => [e.message]

def fileCauses (e : FileFault) : List String := ["IO error: " ++ e.message, e.message]

def buildCauses : Registry.BuildError → List String
  | .formula key cause => [(Registry.BuildError.formula key cause).message, cause.message]
  | e => [e.message]

def loadFile (format : Schema.FileFormat) (path : String) (content : Except FileFault String) :
    Attempt Schema := do
  let failure := Failure.mk ("Failed to load schema: " ++ path)
  let text ← orFail content fun e => failure (fileCauses e)
  let schema ← orFail (format.parse text) fun e => failure (loadCauses e)
  emit [⟨.debug, .schema, "Loaded schema file",
    [("path", path), ("pids", toString schema.records.length)]⟩]
  return schema

def load (format : Schema.FileFormat) (files : String → Except FileFault String)
    (path : Option String) : Attempt Codec := do
  let schema ← match path with
    | some path => loadFile format path (files path)
    | none => orFail format.generic fun e => ⟨"Failed to parse built-in schema", loadCauses e⟩
  emit (Registry.buildEvents schema.records)
  let registry ← orFail schema.registry fun e => ⟨"Schema rejected", buildCauses e⟩
  orFail (Codec.withAddressing registry schema.addressing) fun e => ⟨e.message, []⟩

def compile (source : String) : Attempt Formula := do
  emit (Formula.compileEvents source)
  orFail (Formula.compile source) fun e =>
    ⟨"Failed to compile " ++ Text.quote source, [e.message]⟩

def rawBytes (data : String) : Attempt (List UInt8) :=
  orFail (Hex.decode (Text.trim data)) fun e => ⟨"Invalid hex data: " ++ data, [e.message]⟩

def frameRow (f : Frame) : Row := [
  ⟨"ID", "id", .text ("0x" ++ Hex.padded 3 f.id.toNat)⟩,
  ⟨"Data", "data", .text (" ".intercalate (f.payload.map fun b => Hex.encode [b]))⟩,
  ⟨"Frame", "frame", .text f.render⟩]

def descriptorRow (d : Descriptor) (unit : String) : Row := [
  ⟨"Mode", "mode", .text (Hex.byte d.key.mode)⟩,
  ⟨"PID", "pid", .text (Hex.byte d.key.pid)⟩,
  ⟨"Name", "name", .text d.name⟩,
  ⟨"Bytes", "bytes", .count d.width.toNat⟩,
  ⟨"Type", "value_type", .text d.type.name⟩,
  ⟨"Unit", "unit", .text unit⟩,
  ⟨"Formula", "formula", .text d.source⟩,
  ⟨"Postfix", "postfix", .text d.formula.render⟩]

def decodedRow (x : Codec.Decoded) (unit : String) : Row := [
  ⟨"Mode", "mode", .text (Hex.byte x.key.mode)⟩,
  ⟨"PID", "pid", .text (Hex.byte x.key.pid)⟩,
  ⟨"Name", "name", .text x.descriptor.name⟩,
  ⟨"Raw", "raw", .text (Hex.encode x.raw)⟩,
  ⟨"Value", "value", .text x.value.render⟩,
  ⟨"Unit", "unit", .text unit⟩]

def evalRow (source : String) (f : Formula) (raw : List UInt8) (x : Binary .double)
    (type : ValueType) : Row := [
  ⟨"Formula", "formula", .text source⟩,
  ⟨"Postfix", "postfix", .text f.render⟩,
  ⟨"Raw", "raw", .text (Hex.encode raw)⟩,
  ⟨"Result", "result", .number x⟩,
  ⟨"Type", "value_type", .text type.name⟩,
  ⟨"Value", "value", .text (type.cast x).render⟩]

def showRow (format : OutputFormat) (row : Row) : String :=
  match format with
  | .table => table [row]
  | .json => Json.object "" row ++ "\n"

/-- All rows. A table without rows is a remark, which quiet output leaves out. -/
def showRows (format : OutputFormat) (quiet : Bool) (rows : List Row) : String :=
  match format with
  | .table => if rows.isEmpty then if quiet then "" else "No PIDs\n" else table rows
  | .json => Json.array rows ++ "\n"

def unitName (c : Codec) (d : Descriptor) : Attempt String :=
  orFail (c.registry.unitName d.unit) fun e => ⟨e.message, []⟩

def frameFailure (kind : String) (key : Key) (e : Codec.Error) : Failure :=
  ⟨"Failed to build " ++ kind ++ " for mode " ++ Hex.byte key.mode ++ " PID " ++ Hex.byte key.pid,
    [e.message]⟩

def showBuilt (i : Invocation) (kind : String) (f : Frame) : Attempt String := do
  emit [⟨.debug, .frames, "Built " ++ kind, [("frame", f.render)]⟩]
  return showRow i.format (frameRow f)

def perform (format : Schema.FileFormat) (files : String → Except FileFault String)
    (i : Invocation) : Attempt String := do
  match i.action with
  | .pids =>
    let c ← load format files i.schema
    let rows ← c.registry.descriptors.mapM fun d => do return descriptorRow d (← unitName c d)
    return showRows i.format i.quiet rows
  | .query key =>
    let c ← load format files i.schema
    let f ← orFail (c.query key) (frameFailure "query" key)
    showBuilt i "query" f
  | .respond key data =>
    let c ← load format files i.schema
    let raw ← rawBytes data
    let f ← orFail (c.respond key raw) (frameFailure "response" key)
    showBuilt i "response" f
  | .decode text =>
    let c ← load format files i.schema
    let f ← orFail (Frame.parse text) fun e => ⟨e.message, []⟩
    emit (c.decodeEvents f)
    let x ← orFail (c.decode f) fun e => ⟨"Failed to decode " ++ f.render, [e.message]⟩
    return showRow i.format (decodedRow x (← unitName c x.descriptor))
  | .eval source data type =>
    let f ← compile source
    let raw ← rawBytes data
    let x ← orFail (f.evaluate raw) fun e => ⟨e.message, []⟩
    return showRow i.format (evalRow source f raw x type)

structure Outcome where
  exitCode : UInt8
  output : String
  errors : String
  deriving DecidableEq, Repr

/-- The texts of an attempt, with the events that a filter shows before its output. -/
def Outcome.ofAttempt (filter : Filter) (attempt : Attempt String) : Outcome :=
  let (result, events) := Id.run (attempt.run [])
  let log := String.join ((events.filter filter.allows).map Event.render)
  match result with
  | .ok output => ⟨0, log ++ output, ""⟩
  | .error failure => ⟨1, log, failure.render⟩

def usage : String :=
  "Usage: " ++ toolName ++ " [OPTIONS] <COMMAND>\n\nCommands: " ++
    ", ".intercalate topGrammar.subcommands ++ "\n"

def Outcome.ofRefusal : Refusal → Outcome
  | .rejected => ⟨2, "", usage⟩
  | .help _ => ⟨0, usage, ""⟩
  | .version command => ⟨0, command ++ " " ++ toolVersion ++ "\n", ""⟩

/-- Runs a command line, given the schema path and the log filter that the environment sets. -/
def run (files : String → Except FileFault String) (schema filter : Option String)
    (words : List String) : Outcome :=
  match Invocation.parse schema words with
  | .error refusal => .ofRefusal refusal
  | .ok i => .ofAttempt (Filter.choose i.verbose filter) (perform Schema.yaml files i)

end VehiclePid.Command
