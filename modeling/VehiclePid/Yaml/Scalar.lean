import VehiclePid.Text.Hex
import VehiclePid.Yaml.Token

namespace VehiclePid.Yaml

/-- The blanks and breaks between two words. -/
structure Gap where
  /-- The blanks before any break, in reverse. -/
  blanks : List Char
  broken : Bool
  first : Option Char
  more : List Char
  deriving Inhabited

namespace Gap

def none : Gap := ⟨[], false, .none, []⟩

def hidden : Gap := ⟨[], true, .none, []⟩

def isNone (g : Gap) : Bool := g.blanks.isEmpty && !g.broken

def blank (g : Gap) (c : Char) : Gap := if g.broken then g else { g with blanks := c :: g.blanks }

def lineBreak (g : Gap) (c : Char) : Gap :=
  if g.broken then { g with more := c :: g.more } else ⟨[], true, some c, []⟩

def text (g : Gap) : List Char :=
  if g.broken then
    match g.first with
    | some '\n' => if g.more.isEmpty then [' '] else g.more
    | some c => g.more ++ [c]
    | .none => g.more
  else g.blanks

end Gap

def isFlowMark (c : Char) : Bool := c == ',' || c == '[' || c == ']' || c == '{' || c == '}'

/-- A plain scalar: its text, whether a break follows it before the next token, and the rest. It
ends at a colon before a gap, at a comment, at a document mark, in a flow collection at a flow mark,
and outside one at a line that is not indented. -/
def plain (flow : Bool) (indent : Int) (gap : Gap) (text : List Char) :
    List Glyph → Option (List Char × Bool × List Glyph)
  | [] => some (text.reverse, gap.broken, [])
  | g :: r =>
    if g.isBlank then
      if gap.broken && g.char == '\t' && decide (g.column < indent) then .none
      else plain flow indent (gap.blank g.char) text r
    else if g.isBreak then plain flow indent (gap.lineBreak g.char) text r
    else if !gap.isNone && ((!flow && decide (g.column < indent)) || atDocumentMark (g :: r) ||
        g.char == '#') then some (text.reverse, gap.broken, g :: r)
    else if flow && g.char == ':' && r.head?.any (fun h => isFlowMark h.char || h.char == '?') then
      .none
    else if (g.char == ':' && atGap r) || (flow && isFlowMark g.char) then
      some (text.reverse, gap.broken, g :: r)
    else plain flow indent .none (g.char :: (gap.text ++ text)) r

/-- The rest of a single-quoted scalar. `quote` says that a quote has just been read, which ends the
scalar unless another follows. -/
def singleQuoted (quote : Bool) (gap : Gap) (text : List Char) :
    List Glyph → Option (List Char × List Glyph)
  | [] => if quote then some (text.reverse, []) else .none
  | g :: r =>
    if quote then
      if g.char == '\x27' then singleQuoted false .none ('\x27' :: text) r
      else some (text.reverse, g :: r)
    else if g.isBlank then singleQuoted false (gap.blank g.char) text r
    else if g.isBreak then singleQuoted false (gap.lineBreak g.char) text r
    else if atDocumentMark (g :: r) then .none
    else if g.char == '\x27' then singleQuoted true .none (gap.text ++ text) r
    else singleQuoted false .none (g.char :: (gap.text ++ text)) r

inductive Escape
  | none
  | begun
  /-- Hexadecimal digits left to read, and the value of those read. -/
  | code (left value : Nat)

def escaped? : Char → Option Char
  | '0' => some '\x00'
  | 'a' => some '\x07'
  | 'b' => some '\x08'
  | 't' | '\t' => some '\t'
  | 'n' => some '\n'
  | 'v' => some '\x0b'
  | 'f' => some '\x0c'
  | 'r' => some '\r'
  | 'e' => some '\x1b'
  | ' ' => some ' '
  | '\x22' => some '\x22'
  | '/' => some '/'
  | '\\' => some '\\'
  | 'N' => some '\x85'
  | '_' => some '\xa0'
  | 'L' => some '\u2028'
  | 'P' => some '\u2029'
  | _ => none

def codeLength? : Char → Option Nat
  | 'x' => some 2
  | 'u' => some 4
  | 'U' => some 8
  | _ => none

def charOfCode? (n : Nat) : Option Char :=
  if n.isValidChar then some (Char.ofNat n) else none

def doubleQuoted (escape : Escape) (gap : Gap) (text : List Char) :
    List Glyph → Option (List Char × List Glyph)
  | [] => .none
  | g :: r =>
    match escape with
    | .begun =>
      if g.isBreak then doubleQuoted .none .hidden text r
      else
        match escaped? g.char, codeLength? g.char with
        | some c, _ => doubleQuoted .none .none (c :: text) r
        | .none, some n => doubleQuoted (.code n 0) .none text r
        | .none, .none => .none
    | .code left value =>
      match Hex.digit? g.char with
      | .none => .none
      | some d =>
        if 1 < left then doubleQuoted (.code (left - 1) (16 * value + d)) .none text r
        else
          match charOfCode? (16 * value + d) with
          | some c => doubleQuoted .none .none (c :: text) r
          | .none => .none
    | .none =>
      if g.isBlank then doubleQuoted .none (gap.blank g.char) text r
      else if g.isBreak then doubleQuoted .none (gap.lineBreak g.char) text r
      else if atDocumentMark (g :: r) then .none
      else if g.char == '\x22' then some ((gap.text ++ text).reverse, r)
      else if g.char == '\\' then doubleQuoted .begun .none (gap.text ++ text) r
      else doubleQuoted .none .none (g.char :: (gap.text ++ text)) r

inductive Chomp
  | strip
  | clip
  | keep
  deriving DecidableEq, Repr

def chomp? (gs : List Glyph) : Option (Chomp × List Glyph) :=
  match gs with
  | g :: r =>
    if g.char == '+' then some (.keep, r) else if g.char == '-' then some (.strip, r) else .none
  | [] => .none

/-- The indentation digit, zero if there is none; the digit `0` is refused. -/
def indentDigit? (gs : List Glyph) : Option (Nat × List Glyph) :=
  match gs with
  | g :: r =>
    if g.char == '0' then .none
    else if '1' ≤ g.char && g.char ≤ '9' then some (g.char.toNat - 48, r)
    else some (0, gs)
  | [] => some (0, [])

/-- The header of a block scalar after its mark: chomping, indentation digit and the text from the
next line on. -/
def blockHeader? (gs : List Glyph) : Option (Chomp × Nat × List Glyph) := do
  match chomp? gs with
  | some (chomp, gs) =>
    let (digit, gs) ← indentDigit? gs
    return (chomp, digit, ← endLine? gs)
  | .none =>
    let (digit, gs) ← indentDigit? gs
    let (chomp, gs) := if digit = 0 then (.clip, gs) else (chomp? gs).getD (.clip, gs)
    return (chomp, digit, ← endLine? gs)

/-- The greatest column that the leading blank lines reach, and the one at which a word or the end
stops them. -/
def leadingColumn (greatest : Nat) : List Glyph → Nat
  | [] => greatest
  | g :: r =>
    if g.char == ' ' then leadingColumn greatest r
    else if g.isBreak then leadingColumn (max greatest g.column) r
    else max greatest g.column

/-- Whether a tab follows the indentation of one of the leading blank lines. -/
def tabLeads : List Glyph → Bool
  | [] => false
  | g :: r => if g.char == ' ' || g.isBreak then tabLeads r else g.char == '\t'

structure Block where
  text : List Char
  ended : List Char
  blankLines : List Char
  indented : Bool
  inLine : Bool

namespace Block

def start : Block := ⟨[], [], [], false, false⟩

def joined (b : Block) (folded : Bool) (c : Char) : List Char :=
  let ended :=
    if folded && b.ended == ['\n'] && !b.indented && !isBlank c then
      if b.blankLines.isEmpty then [' '] else []
    else b.ended
  b.blankLines ++ (ended ++ b.text)

def finish (b : Block) (chomp : Chomp) : List Char :=
  let text := if chomp = .strip then b.text else b.ended ++ b.text
  (if chomp = .keep then b.blankLines ++ text else text).reverse

end Block

def blockLines (folded : Bool) (chomp : Chomp) (indent : Nat) (b : Block) :
    List Glyph → Option (List Char × List Glyph)
  | [] => some (b.finish chomp, [])
  | g :: r =>
    if b.inLine then
      if g.isBreak then
        blockLines folded chomp indent
          { b with ended := [g.char], blankLines := [], inLine := false } r
      else blockLines folded chomp indent { b with text := g.char :: b.text } r
    else if g.char == ' ' && g.column < indent then blockLines folded chomp indent b r
    else if g.char == '\t' && g.column < indent then .none
    else if g.isBreak then
      blockLines folded chomp indent { b with blankLines := g.char :: b.blankLines } r
    else if g.column = indent then
      blockLines folded chomp indent
        ⟨g.char :: b.joined folded g.char, [], [], isBlank g.char, true⟩ r
    else some (b.finish chomp, g :: r)

/-- A block scalar after its mark, inside a collection at column `parent`, which is -1 outside any.
Without a digit the first line that is not blank sets the indentation. -/
def block (folded : Bool) (parent : Int) (gs : List Glyph) : Option (List Char × List Glyph) := do
  let (chomp, digit, gs) ← blockHeader? gs
  if digit = 0 then
    if tabLeads gs then .none
    else
      let indent := max (leadingColumn 0 gs) (max (parent + 1).toNat 1)
      blockLines folded chomp indent .start gs
  else blockLines folded chomp (parent.toNat + digit) .start gs

end VehiclePid.Yaml
