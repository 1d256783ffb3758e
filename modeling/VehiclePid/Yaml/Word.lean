import VehiclePid.Text.Hex
import VehiclePid.Yaml.Token

namespace VehiclePid.Yaml

def isDigit (c : Char) : Bool := '0' ≤ c && c ≤ '9'

def isNameChar (c : Char) : Bool :=
  isDigit c || ('A' ≤ c && c ≤ 'Z') || ('a' ≤ c && c ≤ 'z') || c == '_' || c == '-'

def spanText (p : Char → Bool) (gs : List Glyph) : List Char × List Glyph :=
  ((gs.takeWhile fun g => p g.char).map Glyph.char, gs.dropWhile fun g => p g.char)

def name? (gs : List Glyph) : Option (String × List Glyph) :=
  let (text, rest) := spanText isNameChar gs
  let ends := atGap rest || rest.head?.any fun g =>
    ['?', ':', ',', ']', '}', '%', '@', '\x60'].contains g.char
  if text.isEmpty || !ends then none else some (String.ofList text, rest)

/-- The characters of tags; flow marks other than braces only between angle brackets. -/
def isTagChar (verbatim : Bool) (c : Char) : Bool :=
  isNameChar c ||
    [';', '/', '?', ':', '@', '&', '=', '+', '$', '.', '%', '!', '~', '*', '\x27', '(',
      ')'].contains c ||
    (verbatim && (c == ',' || c == '[' || c == ']'))

def tagBytes? : List Char → Option (List UInt8)
  | '%' :: a :: b :: r => do
    return .ofNat (16 * (← Hex.digit? a) + (← Hex.digit? b)) :: (← tagBytes? r)
  | '%' :: _ => none
  | c :: r => do return .ofNat c.toNat :: (← tagBytes? r)
  | [] => some []

def tagText? (verbatim : Bool) (gs : List Glyph) : Option (String × List Glyph) := do
  let (text, rest) := spanText (isTagChar verbatim) gs
  let s ← String.fromUTF8? ⟨(← tagBytes? text).toArray⟩
  return (s, rest)

/-- A tag handle, from its first exclamation mark: a name and a second mark may follow. -/
def tagHandle (gs : List Glyph) : List Char × List Glyph :=
  let (name, rest) := spanText isNameChar (gs.drop 1)
  match rest with
  | g :: r => if g.char == '!' then ('!' :: name ++ ['!'], r) else ('!' :: name, rest)
  | [] => ('!' :: name, [])

/-- A tag from its exclamation mark, as handle and suffix. The lone mark has no handle. -/
def tag? (flow : Bool) (gs : List Glyph) : Option (Token × List Glyph) := do
  let (token, rest) ← (
    if startsWith '<' (gs.drop 1) then do
      let (suffix, rest) ← tagText? true (gs.drop 2)
      if suffix.isEmpty || !startsWith '>' rest then none
      else some (.tag "" suffix, rest.drop 1)
    else do
      let (handle, rest) := tagHandle gs
      if 1 < handle.length && handle.getLast? == some '!' then
        let (suffix, rest) ← tagText? false rest
        if suffix.isEmpty then none else some (.tag (String.ofList handle) suffix, rest)
      else
        let (more, rest) ← tagText? false rest
        let suffix := String.ofList (handle.drop 1) ++ more
        some (if suffix.isEmpty then .tag "" "!" else .tag "!" suffix, rest)
    : Option (Token × List Glyph))
  if atGap rest || (flow && startsWith ',' rest) then some (token, rest) else none

def number? (gs : List Glyph) : Option (Nat × List Glyph) :=
  let (ds, rest) := spanText isDigit gs
  if ds.isEmpty || 9 < ds.length then none
  else some (ds.foldl (fun n c => 10 * n + (c.toNat - 48)) 0, rest)

def directive? (gs : List Glyph) : Option (Token × List Glyph) := do
  let (name, rest) := spanText isNameChar gs
  if !atGap rest then none
  else
    match String.ofList name with
    | "YAML" =>
      let (major, rest) ← number? (dropBlanks rest)
      if startsWith '.' rest then
        let (minor, rest) ← number? (rest.drop 1)
        return (.versionDirective major minor, ← endLine? rest)
      else none
    | "TAG" =>
      let rest := dropBlanks rest
      let (handle, after) := tagHandle rest
      if startsWith '!' rest && handle.getLast? == some '!' && after.head?.any Glyph.isBlank then
        let (replacement, rest) ← tagText? true (dropBlanks after)
        if replacement.isEmpty || !atGap rest then none
        else return (.tagDirective (String.ofList handle) replacement, ← endLine? rest)
      else none
    | _ => none

end VehiclePid.Yaml
