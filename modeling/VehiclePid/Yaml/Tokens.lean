import VehiclePid.Yaml.Scalar
import VehiclePid.Yaml.Word

namespace VehiclePid.Yaml

/-- A token that becomes a key if a colon follows it on its line. -/
structure PendingKey where
  place : Nat
  /-- Whether the indentation admits nothing but a key. -/
  required : Bool
  index : Nat
  line : Nat
  column : Nat

/-- Indentation opens and closes block collections. A word that may turn out to be a key is remembered
by its place among the tokens, and the colon after it puts a key token there. -/
structure Reader where
  tokens : Array Token
  pending : Option PendingKey
  outer : List (Option PendingKey)
  /-- The columns of the open block collections, innermost first; -1 when none is open. -/
  indent : Int
  indents : List Int
  keyAllowed : Bool

namespace Reader

def start : Reader := ⟨#[], none, [], -1, [], true⟩

def inFlow (s : Reader) : Bool := !s.outer.isEmpty

def emit (s : Reader) (t : Token) : Reader := { s with tokens := s.tokens.push t }

def unroll (column : Int) (s : Reader) : Reader :=
  if s.inFlow then s
  else
    let open_ := s.indent :: s.indents
    let closed := (open_.takeWhile (column < ·)).length
    match open_.drop closed with
    | indent :: indents =>
      { s with
        tokens := s.tokens ++ Array.replicate closed Token.blockEnd
        indent := indent
        indents := indents }
    | [] => s

/-- Opens a block collection at a column beyond the innermost one, its first token at `place`. -/
def roll (column place : Nat) (t : Token) (s : Reader) : Reader :=
  if s.inFlow || decide (column ≤ s.indent) then s
  else
    { s with
      tokens := s.tokens.insertIdxIfInBounds place t
      indent := column
      indents := s.indent :: s.indents }

/-- A key can be pending for one line and 1024 characters. -/
def refresh (g : Glyph) (key : Option PendingKey) : Option (Option PendingKey) :=
  match key with
  | some k =>
    if k.line < g.line || k.index + 1024 < g.index then
      if k.required then none else some none
    else some key
  | none => some none

def refreshAll (g : Glyph) (s : Reader) : Option Reader := do
  return { s with pending := ← refresh g s.pending, outer := ← s.outer.mapM (refresh g) }

/-- Gives up the pending key, which must not be required. -/
def forget (s : Reader) : Option Reader :=
  if s.pending.any (·.required) then none else some { s with pending := none }

def remember (g : Glyph) (s : Reader) : Option Reader :=
  if s.keyAllowed then do
    let s ← s.forget
    let required := !s.inFlow && decide (s.indent = g.column)
    return { s with pending := some ⟨s.tokens.size, required, g.index, g.line, g.column⟩ }
  else some s

/-- Skips blanks, comments and breaks up to a token. A tab may stand where no key can begin. -/
def skip (comment : Bool) (s : Reader) : List Glyph → Reader × List Glyph
  | [] => (s, [])
  | g :: r =>
    if g.isBreak then skip false { s with keyAllowed := s.keyAllowed || !s.inFlow } r
    else if comment || g.char == ' ' || (g.char == '\t' && (s.inFlow || !s.keyAllowed)) then
      skip comment s r
    else if g.char == '#' then skip true s r
    else (s, g :: r)

def openFlow (g : Glyph) (t : Token) (s : Reader) : Option Reader := do
  let s ← s.remember g
  return { s with outer := s.pending :: s.outer, pending := none, keyAllowed := true }.emit t

def closeFlow (t : Token) (s : Reader) : Option Reader := do
  let s ← s.forget
  let s := match s.outer with
    | pending :: outer => { s with pending, outer }
    | [] => s
  return { s with keyAllowed := false }.emit t

/-- An entry or explicit key of a block collection, which `first` opens, or of a flow one. -/
def entry (g : Glyph) (first t : Token) (allowNext : Bool) (s : Reader) : Option Reader := do
  if !s.inFlow && !s.keyAllowed then none
  else
    let s ← (s.roll g.column s.tokens.size first).forget
    return { s with keyAllowed := allowNext }.emit t

/-- A colon: the pending token becomes a key, or an explicit key gets its value. -/
def colon (g : Glyph) (s : Reader) : Option Reader :=
  match s.pending with
  | some k =>
    let s := { s with
      tokens := s.tokens.insertIdxIfInBounds k.place .key, pending := none, keyAllowed := false }
    some ((s.roll k.column k.place .blockMappingStart).emit .value)
  | none =>
    if s.inFlow then some ({ s with keyAllowed := false }.emit .value)
    else if s.keyAllowed then
      some ((s.roll g.column s.tokens.size .blockMappingStart).emit .value)
    else none

def boundary (t : Token) (s : Reader) : Option Reader := do
  let s ← (s.unroll (-1)).forget
  return { s with keyAllowed := false }.emit t

def scalar (text : List Char) (style : Style) (s : Reader) : Reader :=
  s.emit (.scalar (String.ofList text) style)

def word (g : Glyph) (s : Reader) (read : Option (Token × List Glyph)) :
    Option (Reader × List Glyph) := do
  let s ← s.remember g
  let (t, rest) ← read
  return ({ s with keyAllowed := false }.emit t, rest)

def plainScalar (g : Glyph) (s : Reader) (gs : List Glyph) : Option (Reader × List Glyph) := do
  let s ← s.remember g
  let (text, broken, rest) ← plain s.inFlow (s.indent + 1) .none [] gs
  return ({ s with keyAllowed := broken }.scalar text .plain, rest)

def blockScalar (folded : Bool) (s : Reader) (gs : List Glyph) :
    Option (Reader × List Glyph) := do
  let s ← s.forget
  let (text, rest) ← block folded s.indent gs
  return ({ s with keyAllowed := true }.scalar text (if folded then .folded else .literal), rest)

def startsPlain (s : Reader) (c : Char) (r : List Glyph) : Bool :=
  if c == '-' then !r.head?.any Glyph.isBlank
  else if c == '?' || c == ':' then !s.inFlow && !atGap r
  else ['\t', ',', '[', ']', '{', '}', '#', '&', '*', '!', '|', '>', '\x27', '\x22', '%', '@',
    '\x60'].all (· != c)

def next (s : Reader) (g : Glyph) (r : List Glyph) : Option (Reader × List Glyph) :=
  let c := g.char
  if g.column == 0 && c == '%' then do
    let (t, rest) ← directive? r
    return (← s.boundary t, rest)
  else if atDocumentMark (g :: r) then do
    return (← s.boundary (if c == '-' then .documentStart else .documentEnd), r.drop 2)
  else if c == '[' then do return (← s.openFlow g .flowSequenceStart, r)
  else if c == '{' then do return (← s.openFlow g .flowMappingStart, r)
  else if c == ']' then do return (← s.closeFlow .flowSequenceEnd, r)
  else if c == '}' then do return (← s.closeFlow .flowMappingEnd, r)
  else if c == ',' then do return ({ ← s.forget with keyAllowed := true }.emit .flowEntry, r)
  else if c == '-' && atGap r then do
    return (← s.entry g .blockSequenceStart .blockEntry true, r)
  else if c == '?' && (s.inFlow || atGap r) then do
    return (← s.entry g .blockMappingStart .key (!s.inFlow), r)
  else if c == ':' && (s.inFlow || atGap r) then do return (← s.colon g, r)
  else if c == '*' then s.word g ((name? r).map fun (n, rest) => (.alias n, rest))
  else if c == '&' then s.word g ((name? r).map fun (n, rest) => (.anchor n, rest))
  else if c == '!' then s.word g (tag? s.inFlow (g :: r))
  else if c == '|' && !s.inFlow then s.blockScalar false r
  else if c == '>' && !s.inFlow then s.blockScalar true r
  else if c == '\x27' then
    s.word g ((singleQuoted false .none [] r).map fun (t, rest) =>
      (.scalar (String.ofList t) .singleQuoted, rest))
  else if c == '\x22' then
    s.word g ((doubleQuoted .none .none [] r).map fun (t, rest) =>
      (.scalar (String.ofList t) .doubleQuoted, rest))
  else if s.startsPlain c r then s.plainScalar g (g :: r)
  else none

def readAll : (n : Nat) → Reader → List Glyph → Option (Array Token)
  | 0, _, _ => none
  | n + 1, s, gs =>
    match s.skip false gs with
    | (s, []) => do return (← (s.unroll (-1)).forget).tokens
    | (s, g :: r) => do
      let s ← s.refreshAll g
      let (s, rest) ← (s.unroll g.column).next g r
      readAll n s rest

end Reader

/-- The tokens of a text. Each takes a glyph at least. -/
def tokens? (cs : List Char) : Option (List Token) := do
  let gs ← glyphs? cs
  return (← Reader.start.readAll (gs.length + 1) gs).toList

end VehiclePid.Yaml
