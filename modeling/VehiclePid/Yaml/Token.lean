namespace VehiclePid.Yaml

structure Glyph where
  char : Char
  index : Nat
  line : Nat
  column : Nat
  deriving DecidableEq, Repr

def isAllowed (c : Char) : Bool :=
  let n := c.toNat
  n == 0x09 || n == 0x0A || n == 0x0D || (0x20 ≤ n && n ≤ 0x7E) || n == 0x85 ||
    (0xA0 ≤ n && n ≤ 0xFFFD) || 0x10000 ≤ n

def isLineFeed (c : Char) : Bool := c == '\n' || c == '\r' || c == '\x85'

/-- The line breaks left among glyphs: line feeds and the two Unicode separators. -/
def isBreak (c : Char) : Bool := c == '\n' || c == '\u2028' || c == '\u2029'

def isBlank (c : Char) : Bool := c == ' ' || c == '\t'

def glyphsFrom (index line column : Nat) : List Char → List Glyph
  | [] => []
  | '\r' :: '\n' :: r => ⟨'\n', index, line, column⟩ :: glyphsFrom (index + 2) (line + 1) 0 r
  | c :: r =>
    if isLineFeed c then ⟨'\n', index, line, column⟩ :: glyphsFrom (index + 1) (line + 1) 0 r
    else if isBreak c then ⟨c, index, line, column⟩ :: glyphsFrom (index + 1) (line + 1) 0 r
    else ⟨c, index, line, column⟩ :: glyphsFrom (index + 1) line (column + 1) r

/-- The glyphs of a text. A byte order mark at its start is skipped but takes a column. -/
def glyphs? (cs : List Char) : Option (List Glyph) :=
  if cs.all isAllowed then
    some <| match cs with
      | '\uFEFF' :: r => glyphsFrom 1 0 1 r
      | _ => glyphsFrom 0 0 0 cs
  else none

namespace Glyph

def isBlank (g : Glyph) : Bool := Yaml.isBlank g.char

def isBreak (g : Glyph) : Bool := Yaml.isBreak g.char

def isGap (g : Glyph) : Bool := g.isBlank || g.isBreak

end Glyph

def atGap (gs : List Glyph) : Bool := gs.head?.all Glyph.isGap

def startsWith (c : Char) (gs : List Glyph) : Bool := gs.head?.any (·.char == c)

def atDocumentMark (gs : List Glyph) : Bool :=
  match gs with
  | a :: b :: c :: r =>
    a.column == 0 && (a.char == '-' || a.char == '.') && b.char == a.char && c.char == a.char &&
      atGap r
  | _ => false

def dropBlanks (gs : List Glyph) : List Glyph := gs.dropWhile Glyph.isBlank

def dropComment (gs : List Glyph) : List Glyph :=
  if startsWith '#' gs then gs.dropWhile (!·.isBreak) else gs

/-- The rest after a line that holds nothing more than blanks and a comment. -/
def endLine? (gs : List Glyph) : Option (List Glyph) :=
  match dropComment (dropBlanks gs) with
  | [] => some []
  | g :: r => if g.isBreak then some r else none

inductive Style
  | plain
  | singleQuoted
  | doubleQuoted
  | literal
  | folded
  deriving DecidableEq, Repr

inductive Token
  | versionDirective (major minor : Nat)
  | tagDirective (handle replacement : String)
  | documentStart
  | documentEnd
  | blockSequenceStart
  | blockMappingStart
  | blockEnd
  | flowSequenceStart
  | flowSequenceEnd
  | flowMappingStart
  | flowMappingEnd
  | blockEntry
  | flowEntry
  | key
  | value
  | alias (name : String)
  | anchor (name : String)
  | tag (handle suffix : String)
  | scalar (text : String) (style : Style)
  deriving DecidableEq, Repr, Inhabited

end VehiclePid.Yaml
