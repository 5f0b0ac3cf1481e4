import TaintFlow.Text
import TaintFlow.Text.Width

/-!
# Text tables

Tables with box-drawing borders. Each column is as wide as its widest line, with a blank on either
side; cells are left-aligned, and a line break in a cell makes the row higher.
-/

namespace TaintFlow

/-- A table: a header and rows of cells. -/
structure Table where
  header : List String
  rows : List (List String)
  deriving DecidableEq, Repr, Inhabited

namespace Table

/-- The lines of a cell. -/
def cellLines (cell : String) : List String := Text.split '\n' cell

/-- The width of a cell. -/
def cellWidth (cell : String) : Nat := (cellLines cell).foldl (fun w l => max w (Text.width l)) 0

/-- The width of each column. -/
def columnWidths (t : Table) : List Nat :=
  t.rows.foldl (fun widths row => widths.zipWith max (row.map cellWidth)) (t.header.map cellWidth)

/-- A line between rows: its left end, what fills it, what stands between columns and its right
end. -/
structure Rule where
  left : String
  fill : String
  cross : String
  right : String

def topRule : Rule := ⟨"┌", "─", "┬", "┐"⟩

def headerRule : Rule := ⟨"╞", "═", "╪", "╡"⟩

def rowRule : Rule := ⟨"├", "╌", "┼", "┤"⟩

def bottomRule : Rule := ⟨"└", "─", "┴", "┘"⟩

/-- The text of a rule. -/
def Rule.render (r : Rule) (widths : List Nat) : String :=
  r.left ++ Text.join r.cross (widths.map fun w => Text.repeated (w + 2) r.fill) ++ r.right

/-- A line of a cell filled up to its column. -/
def padLine (width : Nat) (line : String) : String :=
  " " ++ line ++ Text.repeated (width - Text.width line) " " ++ " "

/-- The lines of a row. -/
def rowLines (widths : List Nat) (row : List String) : List String :=
  let cells := row.map cellLines
  let height := cells.foldl (fun h c => max h c.length) 1
  (List.range height).map fun i =>
    "│" ++ Text.join "┆" (widths.zipWith (fun w cell => padLine w ((cell[i]?).getD "")) cells) ++ "│"

/-- The lines of a table. -/
def lines (t : Table) : List String :=
  let widths := t.columnWidths
  let body := t.rows.map (rowLines widths)
  [topRule.render widths] ++ rowLines widths t.header ++ [headerRule.render widths] ++
    (body.intersperse [rowRule.render widths]).flatten ++ [bottomRule.render widths]

/-- The text of a table, without a last line break. -/
def render (t : Table) : String := Text.join "\n" t.lines

end Table

end TaintFlow
