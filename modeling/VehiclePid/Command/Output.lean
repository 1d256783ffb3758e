import VehiclePid.Decimal.Layout
import VehiclePid.Text.Width

namespace VehiclePid.Command

inductive Cell
  | text (s : String)
  | count (n : Nat)
  | number (x : Binary .double)

structure Column where
  title : String
  name : String
  cell : Cell

abbrev Row := List Column

def Cell.plain : Cell → String
  | .text s => s
  | .count n => toString n
  | .number x => Decimal.Layout.plain.render x

def lines : List Char → List (List Char)
  | [] => [[]]
  | c :: r =>
    if c = '\n' then [] :: lines r
    else match lines r with
      | line :: rest => (c :: line) :: rest
      | [] => [[c]]

namespace Table

def cellWidth (cell : List (List Char)) : Nat := (cell.map Text.width).foldl max 0

def widen : List Nat → List Nat → List Nat
  | a :: as, b :: bs => max a b :: widen as bs
  | [], bs => bs
  | as, [] => as

def fill (width : Nat) (line : List Char) : List Char :=
  line ++ List.replicate (width - Text.width line) ' '

def rule (widths : List Nat) : List Char :=
  widths.flatMap (fun w => '+' :: List.replicate (w + 2) '-') ++ ['+', '\n']

def rowLine (widths : List Nat) (cells : List (List (List Char))) (index : Nat) : List Char :=
  (widths.zip cells).flatMap
      (fun (w, cell) => ['|', ' '] ++ fill w (cell.getD index []) ++ [' ']) ++
    ['|', '\n']

def rowLines (widths : List Nat) (cells : List (List (List Char))) : List Char :=
  let height := (cells.map List.length).foldl max 1
  (List.range height).flatMap (rowLine widths cells)

def ofCells (rows : List (List (List (List Char)))) : List Char :=
  let widths := rows.foldl (fun ws row => widen ws (row.map cellWidth)) []
  rule widths ++ rows.flatMap fun row => rowLines widths row ++ rule widths

end Table

def table (rows : List Row) : String :=
  match rows with
  | [] => ""
  | row :: _ =>
    let titles := row.map fun c => lines c.title.toList
    let cells := rows.map (·.map fun c => lines c.cell.plain.toList)
    String.ofList (Table.ofCells (titles :: cells))

namespace Json

def escapeChar (c : Char) : List Char :=
  match c with
  | '\x22' => ['\\', '\x22']
  | '\\' => ['\\', '\\']
  | '\x08' => ['\\', 'b']
  | '\x0c' => ['\\', 'f']
  | '\n' => ['\\', 'n']
  | '\r' => ['\\', 'r']
  | '\t' => ['\\', 't']
  | _ =>
    if c.toNat < 0x20 then
      ['\\', 'u', '0', '0'] ++ Nat.toDigits 16 (c.toNat / 16) ++ Nat.toDigits 16 (c.toNat % 16)
    else [c]

def quote (s : String) : String := "\"" ++ String.ofList (s.toList.flatMap escapeChar) ++ "\""

def cell : Cell → String
  | .text s => quote s
  | .count n => toString n
  | .number x => Decimal.Layout.json.render x

def block (opening closing indent : String) (items : List String) : String :=
  if items.isEmpty then opening ++ closing
  else
    opening ++ "\n" ++ ",\n".intercalate (items.map fun item => indent ++ "  " ++ item) ++ "\n" ++
      indent ++ closing

def object (indent : String) (row : Row) : String :=
  block "\x7b" "\x7d" indent (row.map fun c => quote c.name ++ ": " ++ cell c.cell)

def array (rows : List Row) : String := block "[" "]" "" (rows.map (object "  "))

end Json

structure Failure where
  message : String
  /-- Each is the cause of the one before it. -/
  causes : List String
  deriving DecidableEq, Repr

namespace Failure

def indented (lead : String) (indent : Nat) (s : String) : String :=
  lead ++ String.ofList (s.toList.flatMap fun c =>
    if c = '\n' then '\n' :: List.replicate indent ' ' else [c])

def lead (index : Nat) : String :=
  let ds := toString index
  String.ofList (List.replicate (5 - ds.length) ' ') ++ ds ++ ": "

def causeLines : List String → List String
  | [] => []
  | [cause] => [indented "    " 4 cause]
  | causes => causes.zipIdx.map fun (cause, i) => indented (lead i) 7 cause

def render (f : Failure) : String :=
  let causes :=
    if f.causes.isEmpty then "" else "\n\nCaused by:\n" ++ "\n".intercalate (causeLines f.causes)
  "Error: " ++ f.message ++ causes ++ "\n"

end Failure

end VehiclePid.Command
