import Rota.Text.Width

/-!
Tables of plain text. A column is as wide as its widest line and every cell has a space on each
side; a cell with line ends takes several lines. The header is set off by a double rule, rows by
single ones.
-/

namespace Rota

structure Table where
  header : List String
  rows : List (List String)
  deriving DecidableEq

namespace Table

def cellLines (cell : String) : List String :=
  (cell.toList.splitOn '\n').map String.ofList

def cellWidth (cell : String) : Nat := ((cellLines cell).map Text.width).foldl max 0

def widen : List Nat → List String → List Nat
  | widths, [] => widths
  | [], cells => cells.map cellWidth
  | width :: widths, cell :: cells => max width (cellWidth cell) :: widen widths cells

def widths (table : Table) : List Nat := table.rows.foldl widen (table.header.map cellWidth)

def repeated (c : Char) (n : Nat) : String := String.ofList (List.replicate n c)

/-- A rule across the table: what stands at its ends, between columns, and along them. -/
def rule (widths : List Nat) (edge crossing line : Char) : String :=
  edge.toString ++ crossing.toString.intercalate (widths.map fun width => repeated line (width + 2))
    ++ edge.toString

def padded (width : Nat) (line : String) : String :=
  " " ++ line ++ repeated ' ' (width - Text.width line) ++ " "

def rowLines (widths : List Nat) (cells : List String) : List String :=
  let columns := (cells.map cellLines).zip widths
  let height := (columns.map fun column => column.1.length).foldl max 0
  (List.range height).map fun index =>
    "|" ++ "|".intercalate (columns.map fun (lines, width) =>
      padded width ((lines[index]?).getD "")) ++ "|"

def lines (table : Table) : List String :=
  let widths := table.widths
  let border := rule widths '+' '+' '-'
  let rows := table.rows.map (rowLines widths)
  border :: rowLines widths table.header
    ++ rule widths '+' '=' '=' :: [rule widths '|' '+' '-'].intercalate rows ++ [border]

end Table
end Rota
