import VehiclePid.Command.Grammar
import VehiclePid.Key
import VehiclePid.Value.Basic

namespace VehiclePid.Command

inductive OutputFormat
  | table
  | json
  deriving DecidableEq, Repr

def OutputFormat.ofName? : String → Option OutputFormat
  | "table" => some .table
  | "json" => some .json
  | _ => none

inductive Action
  | pids
  | query (key : Key)
  | respond (key : Key) (data : String)
  | decode (frame : String)
  | eval (formula data : String) (type : ValueType)
  deriving DecidableEq, Repr

structure Invocation where
  /-- The path of the schema file; the generic schema if there is none. -/
  schema : Option String
  format : OutputFormat
  quiet : Bool
  verbose : Bool
  action : Action
  deriving DecidableEq, Repr

inductive Slot
  | schema
  | format
  | noColor
  | quiet
  | verbose
  | help
  | version
  | mode
  | pid
  | data
  | frame
  | formula
  | type
  deriving DecidableEq, Repr

def Slot.accepts (slot : Slot) (value : String) : Bool :=
  match slot with
  | schema => !value.isEmpty
  | format => (OutputFormat.ofName? value).isSome
  | mode | pid => (parseId value).toOption.isSome
  | type => (ValueType.parse value).toOption.isSome
  | _ => true

def toolName : String := "obd-cli"

def toolVersion : String := "0.1.0"

def helpSwitches : List (Switch Slot) :=
  [⟨.help, some 'h', "help", .help⟩, ⟨.version, some 'V', "version", .version⟩]

def subcommands : List String := ["pids", "query", "respond", "decode", "eval"]

def topGrammar : Grammar Slot where
  command := toolName
  switches := [
    ⟨.schema, some 's', "schema", .value⟩,
    ⟨.format, some 'o', "output", .value⟩,
    ⟨.noColor, none, "no-color", .set⟩,
    ⟨.quiet, some 'q', "quiet", .set⟩,
    ⟨.verbose, some 'v', "verbose", .set⟩] ++ helpSwitches
  operands := []
  subcommands := "help" :: subcommands
  accepts := Slot.accepts

def subGrammar (name : String) : Grammar Slot where
  command := toolName ++ "-" ++ name
  switches :=
    (if name == "eval" then [⟨.type, some 't', "type", .value⟩] else []) ++ helpSwitches
  operands := match name with
    | "query" => [.mode, .pid]
    | "respond" => [.mode, .pid, .data]
    | "decode" => [.frame]
    | "eval" => [.formula, .data]
    | _ => []
  subcommands := []
  accepts := Slot.accepts

namespace Action

def readKey? (x : Reading Slot) : Option Key := do
  let mode ← (parseId (← x.get? .mode)).toOption
  let pid ← (parseId (← x.get? .pid)).toOption
  return ⟨mode, pid⟩

def ofReading? (name : String) (x : Reading Slot) : Option Action := do
  match name with
  | "pids" => return pids
  | "query" => return query (← readKey? x)
  | "respond" => return respond (← readKey? x) (← x.get? .data)
  | "decode" => return decode (← x.get? .frame)
  | "eval" =>
    let type ← match x.get? .type with
      | some s => (ValueType.parse s).toOption
      | none => some .float
    return eval (← x.get? .formula) (← x.get? .data) type
  | _ => none

end Action

namespace Invocation

def helpRefusal : List String → Refusal
  | [] => .help toolName
  | [name] =>
    if topGrammar.subcommands.contains name then .help (toolName ++ "-" ++ name) else .rejected
  | _ => .rejected

/-- Reads the words of a command line. The path of the schema may also come from the
environment. -/
def parse (environment : Option String) (words : List String) : Except Refusal Invocation := do
  let (top, rest) ← Reading.scan topGrammar .empty words
  match rest with
  | [] => .error .rejected
  | "help" :: names => .error (helpRefusal names)
  | name :: rest =>
    let grammar := subGrammar name
    let (sub, _) ← Reading.scan grammar .empty rest
    let sub ← sub.settle grammar
    let top ← top.settle topGrammar
    let schema := (top.get? .schema).or environment
    if schema == some "" then .error .rejected
    else match Action.ofReading? name sub with
      | none => .error .rejected
      | some action =>
        return {
          schema
          format := ((top.get? .format).bind OutputFormat.ofName?).getD .table
          quiet := top.has .quiet
          verbose := top.has .verbose
          action }

end Invocation

end VehiclePid.Command
