namespace VehiclePid

inductive Level
  | error
  | warn
  | info
  | debug
  | trace
  deriving DecidableEq, Repr

namespace Level

def all : List Level := [error, warn, info, debug, trace]

def rank : Level → Nat
  | error => 1
  | warn => 2
  | info => 3
  | debug => 4
  | trace => 5

def name : Level → String
  | error => "ERROR"
  | warn => "WARN"
  | info => "INFO"
  | debug => "DEBUG"
  | trace => "TRACE"

end Level

inductive Reporter
  | formula
  | descriptor
  | registry
  | codec
  | schema
  | frames
  deriving DecidableEq, Repr

def Reporter.target : Reporter → String
  | formula => "obd_conv::formula::compile"
  | descriptor => "obd_conv::definition"
  | registry => "obd_conv::registry"
  | codec => "obd_conv::codec"
  | schema => "obd_conv::schema"
  | frames => "obd_cli::commands::frames"

structure Event where
  level : Level
  reporter : Reporter
  message : String
  fields : List (String × String)
  deriving DecidableEq, Repr

def Event.render (e : Event) : String :=
  let fields := e.fields.map fun (name, value) => " " ++ name ++ "=" ++ value
  e.level.name ++ " " ++ e.message ++ String.join fields ++ "\n"

end VehiclePid
