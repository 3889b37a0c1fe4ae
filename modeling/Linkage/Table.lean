import Linkage.Text.Blank
import Linkage.Text.Width

/-! Tables of text, in which each column is as wide as its widest cell. -/

namespace Linkage

structure Table where
  headers : List String
  rows : List (List String) := []
  deriving DecidableEq, Repr

namespace Table

/-- Cells for a number of columns: missing ones are empty, and surplus ones are left out. -/
def fitted (columns : Nat) (cells : List String) : List String :=
  cells.take columns ++ List.replicate (columns - cells.length) ""

def addRow (table : Table) (cells : List String) : Table :=
  { table with rows := table.rows ++ [fitted table.headers.length cells] }

def widths (table : Table) : List Nat :=
  table.rows.foldl (fun widths row => List.zipWith max widths (row.map Text.width)) (table.headers.map Text.width)

/-- A cell with blanks up to a width. -/
def padded (cell : String) (width : Nat) : String :=
  cell ++ .ofList (List.replicate (width - Text.width cell) ' ')

/-- Cells beside each other, without white space at the end. -/
def line (widths : List Nat) (cells : List String) : String :=
  .ofList (Text.trimEnd (Text.join "  " (List.zipWith padded cells widths)).toList)

/-- The headers, a rule below them, and the rows. -/
def lines (table : Table) : List String :=
  let widths := table.widths
  let rule := widths.map fun width => String.ofList (List.replicate width '─')
  line widths table.headers :: Text.join "  " rule :: table.rows.map (line widths)

def text (table : Table) : String :=
  Text.join "\n" table.lines

end Table
end Linkage
