import VehiclePid.Command.Run

open VehiclePid.Command

def readText (path : String) : IO (Except FileFault String) := do
  try
    return fileText (← IO.FS.readBinFile path)
  catch e =>
    match e with
    | .noFileOrDirectory .. => return .error .notFound
    | .inappropriateType _ code _ =>
      return .error (if code = 20 then .notDirectory else .isDirectory)
    | e => return .error (.other (toString e))

def main (words : List String) : IO UInt32 := do
  let schema ← IO.getEnv "OBD_SCHEMA"
  let filter ← IO.getEnv "RUST_LOG"
  let content ← match Invocation.parse schema words with
    | .ok { schema := some path, .. } => readText path
    | _ => pure (.error .notFound)
  let outcome := run (fun _ => content) schema filter words
  IO.print outcome.output
  IO.eprint outcome.errors
  return outcome.exitCode.toUInt32
