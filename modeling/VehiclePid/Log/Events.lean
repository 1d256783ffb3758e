import VehiclePid.Codec
import VehiclePid.Log.Basic

namespace VehiclePid

def Key.fields (k : Key) : List (String × String) :=
  [("mode", toString k.mode.toNat), ("pid", toString k.pid.toNat)]

/-- A formula compiled from text that is not blank. -/
def Formula.compileEvents (source : String) : List Event :=
  match Formula.compile source with
  | .ok f =>
    if f.isIdentity then []
    else [⟨.trace, .formula, "Compiled formula",
      [("source", Text.quote source), ("postfix", f.render)]⟩]
  | .error _ => []

namespace Registry

/-- A width that no response has room for. -/
def widthEvents (x : Record) : List Event :=
  if x.width.toNat ≤ Frame.maxRaw then []
  else [⟨.warn, .registry, "PID wider than a single response frame",
    x.key.fields ++ [("bytes", toString x.width.toNat), ("max", toString Frame.maxRaw)]⟩]

/-- The events of joining records to a registry, up to the first that is refused. -/
def joinEvents (r : Registry) : List Record → List Event
  | [] => [⟨.debug, .registry, "Built PID registry",
      [("pids", toString r.size), ("units", toString r.units.length)]⟩]
  | x :: rest =>
    match r.admits x with
    | .error _ => []
    | .ok () =>
      widthEvents x ++ Formula.compileEvents x.formula ++
        match r.add x with
        | .ok r => joinEvents r rest
        | .error _ => []

def buildEvents (records : List Record) : List Event := joinEvents empty records

end Registry

namespace Codec

def rawText (raw : List UInt8) : String :=
  "[" ++ ", ".intercalate (raw.map fun b => toString b.toNat) ++ "]"

def decodeEvents (c : Codec) (f : Frame) : List Event :=
  match c.locate f with
  | .error _ => []
  | .ok (key, d, raw) =>
    match d.result raw with
    | .error _ => []
    | .ok x =>
      let odd : List Event :=
        if x.isFinite then []
        else [⟨.warn, .descriptor, "Formula produced a non-finite value",
          d.key.fields ++ [("result", Decimal.Layout.plain.render x)]⟩]
      odd ++ [⟨.trace, .codec, "Decoded response",
        key.fields ++ [("raw", rawText raw), ("value", (d.type.cast x).render)]⟩]

end Codec

end VehiclePid
