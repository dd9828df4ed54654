import SensorLog.Text.Align

/-!
# Boxed tables

Every column is as wide as its widest cell, with one blank on either side. A double line stands
below the header and a dashed line between rows.
-/

namespace SensorLog.Text

/-- The width of each column of a table. -/
def columnWidths (header : List String) (rows : List (List String)) : List Nat :=
  rows.foldl (fun widths row => List.zipWith max widths (row.map (·.length)))
    (header.map (·.length))

/-- A horizontal line: its left end, fill, crossing and right end. -/
def rule (left fill crossing right : String) (widths : List Nat) : String :=
  left
    ++ String.intercalate crossing (widths.map fun w => String.join (List.replicate (w + 2) fill))
    ++ right

/-- A line of cells. -/
def cells (widths : List Nat) (row : List String) : String :=
  "│ " ++ String.intercalate " ┆ " (List.zipWith padRight widths row) ++ " │"

/-- The lines of a table. -/
def tableLines (header : List String) (rows : List (List String)) : List String :=
  let widths := columnWidths header rows
  [rule "┌" "─" "┬" "┐" widths, cells widths header, rule "╞" "═" "╪" "╡" widths]
    ++ (rows.map (cells widths)).intersperse (rule "├" "╌" "┼" "┤" widths)
    ++ [rule "└" "─" "┴" "┘" widths]

end SensorLog.Text
