import VehiclePid.Yaml.Token
import VehiclePid.Yaml.Plain

namespace VehiclePid.Yaml

inductive Tree
  | number (n : Nat)
  | text (s : String)
  | mapping (entries : List (String × Tree))

def isPrintable (c : Char) : Bool :=
  let n := c.toNat
  n == 0x0A || (0x20 ≤ n && n ≤ 0x7E) || (0xA0 ≤ n && n < 0xFFFE && n != 0xFEFF) || 0x10000 ≤ n

def isAnyBreak (c : Char) : Bool := isLineFeed c || isBreak c

def isSpaceOrEnd (c : Option Char) : Bool :=
  c.all fun c => isBlank c || isAnyBreak c || c == '\x00'

def hasNeighbours (p q : Char → Bool) (cs : List Char) : Bool :=
  (cs.zip (cs.drop 1)).any fun (a, b) => p a && q b

/-- Whether a colon before a space or a number sign after one stands beyond the first character. -/
def hasInnerMark : List Char → Bool
  | a :: b :: r =>
    (b == ':' && isSpaceOrEnd r.head?) || (b == '#' && isSpaceOrEnd (some a)) ||
      hasInnerMark (b :: r)
  | _ => false

def hasLeadingMark (cs : List Char) : Bool :=
  cs.take 3 == ['-', '-', '-'] || cs.take 3 == ['.', '.', '.'] ||
    match cs with
    | [] => false
    | c :: r =>
      ['#', ',', '[', ']', '{', '}', '&', '*', '!', '|', '>', '\x27', '\x22', '%', '@',
        '\x60'].contains c ||
      ((c == '?' || c == ':' || c == '-') && isSpaceOrEnd r.head?)

def endsWith (p : Char → Bool) (cs : List Char) : Bool := cs.getLast?.any p

/-- Text that only double quotes can hold, apart from breaks before a space. -/
def isSpecial (cs : List Char) : Bool :=
  !cs.all isPrintable || hasNeighbours (· == ' ') isAnyBreak cs

def singleQuotable (cs : List Char) : Bool :=
  !isSpecial cs && !hasNeighbours isAnyBreak (· == ' ') cs

def blockable (cs : List Char) : Bool := !isSpecial cs && !endsWith (· == ' ') cs

def plainable (cs : List Char) : Bool :=
  !isSpecial cs && !cs.any isAnyBreak && !cs.head?.any (· == ' ') && !endsWith (· == ' ') cs &&
    !hasLeadingMark cs && !hasInnerMark cs

def Style.of (s : String) : Style :=
  let cs := s.toList
  if cs.contains '\n' then if blockable cs then .literal else .doubleQuoted
  else if !isAmbiguous s && plainable cs then .plain
  else if singleQuotable cs then .singleQuoted
  else .doubleQuoted

/-- Text between single quotes. A quote is written twice; a line after a break is indented. -/
def singleQuotedText (pad : List Char) : (afterBreak : Bool) → List Char → List Char
  | afterBreak, [] => (if afterBreak then pad else []) ++ ['\x27']
  | afterBreak, c :: r =>
    if isAnyBreak c then c :: singleQuotedText pad true r
    else
      (if afterBreak then pad else []) ++ (if c == '\x27' then ['\x27', '\x27'] else [c]) ++
        singleQuotedText pad false r

def codeDigits : (width : Nat) → Nat → List Char
  | 0, _ => []
  | width + 1, n => codeDigits width (n / 16) ++ (Nat.toDigits 16 (n % 16)).map Char.toUpper

def escapeChar (c : Char) : List Char :=
  let letter : Option Char := match c with
    | '\x00' => some '0'
    | '\x07' => some 'a'
    | '\x08' => some 'b'
    | '\t' => some 't'
    | '\n' => some 'n'
    | '\x0b' => some 'v'
    | '\x0c' => some 'f'
    | '\r' => some 'r'
    | '\x1b' => some 'e'
    | '\x22' => some '\x22'
    | '\\' => some '\\'
    | '\x85' => some 'N'
    | '\u2028' => some 'L'
    | '\u2029' => some 'P'
    | _ => none
  match letter with
  | some l => ['\\', l]
  | none =>
    let n := c.toNat
    if isPrintable c then [c]
    else if n ≤ 0xFF then '\\' :: 'x' :: codeDigits 2 n
    else if n ≤ 0xFFFF then '\\' :: 'u' :: codeDigits 4 n
    else '\\' :: 'U' :: codeDigits 8 n

def literalLines (pad : List Char) : (lineStart : Bool) → List Char → List Char
  | _, [] => []
  | lineStart, c :: r =>
    if isAnyBreak c then c :: literalLines pad true r
    else (if lineStart then pad else []) ++ c :: literalLines pad false r

/-- The header of a literal block: an indentation digit if the text begins with a blank, `-` if it
does not end with a break, `+` if it ends with an empty line. -/
def literalHeader (cs : List Char) : List Char :=
  let digit := if cs.head?.any (fun c => c == ' ' || isAnyBreak c) then ['2'] else []
  let chomp := match cs.reverse with
    | [] => ['-']
    | c :: r => if !isAnyBreak c then ['-'] else if r.head?.all isAnyBreak then ['+'] else []
  '|' :: digit ++ chomp

/-- Text is written plain where it reads back as itself, in single quotes where it does not, as a
literal block if it has line feeds, and in double quotes where neither can hold it. -/
def scalarText (indent : Nat) (s : String) : List Char :=
  let cs := s.toList
  let pad := List.replicate indent ' '
  match Style.of s with
  | .plain => cs
  | .singleQuoted => '\x27' :: singleQuotedText pad false cs
  | .literal | .folded => literalHeader cs ++ '\n' :: literalLines pad true cs
  | .doubleQuoted => '\x22' :: cs.flatMap escapeChar ++ ['\x22']

def endLine (cs : List Char) : List Char := if endsWith isAnyBreak cs then cs else cs ++ ['\n']

mutual

def Tree.afterKey (indent : Nat) : Tree → List Char
  | .number n => ' ' :: (toString n).toList ++ ['\n']
  | .text s => ' ' :: endLine (scalarText (indent + 2) s)
  | .mapping [] => [' ', '\x7b', '\x7d', '\n']
  | .mapping (e :: es) => '\n' :: entryLines (indent + 2) (e :: es)

def entryLines (indent : Nat) : List (String × Tree) → List Char
  | [] => []
  | (key, value) :: r =>
    List.replicate indent ' ' ++ scalarText (indent + 2) key ++ ':' :: value.afterKey indent ++
      entryLines indent r

end

def render (entries : List (String × Tree)) : String := String.ofList (entryLines 0 entries)

end VehiclePid.Yaml
