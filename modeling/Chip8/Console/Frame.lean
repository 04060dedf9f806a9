import Chip8.Console.Wrap

/-!
# Frames and tables

A panel is a frame with round corners and a title in its upper edge.  A table has a column for each
value; a heading row is set off by heavy lines.
-/
namespace Chip8.Console

/-- `n` copies of a character. -/
def rule (c : Char) (n : Nat) : String := String.ofList (List.replicate n c)

/-- A panel around lines of `width` cells. -/
def panel (title : String) (width : Nat) (lines : List String) : List String :=
  let inner := width + 2
  let label := " " ++ title ++ " "
  let left := (inner - label.length) / 2
  let right := inner - label.length - left
  ["╭" ++ rule '─' left ++ label ++ rule '─' right ++ "╮"]
    ++ lines.map (fun l => "│ " ++ l ++ " │")
    ++ ["╰" ++ rule '─' inner ++ "╯"]

/-- The parts of a table row between two edges. -/
def row (first between last : String) (parts : List String) : String :=
  first ++ between.intercalate parts ++ last

/-- The width of a table with columns of the given widths. -/
def tableWidth (widths : List Nat) : Nat := (widths.map (· + 3)).foldl (· + ·) 1

/-- A table of one row under a heading row, with a title above it. -/
def headedTable (title : String) (columns : List (String × String)) : List String :=
  let widths := columns.map fun (head, value) => max head.length value.length
  let edge (c : Char) := widths.map fun w => rule c (w + 2)
  let heads := (columns.zip widths).map fun ((head, _), w) => " " ++ Text.padLeft w head ++ " "
  let values := (columns.zip widths).map fun ((_, value), w) => " " ++ Text.padLeft w value ++ " "
  centred (tableWidth widths) title
    ++ [row "┏" "┳" "┓" (edge '━'), row "┃" "┃" "┃" heads, row "┡" "╇" "┩" (edge '━'),
      row "│" "│" "│" values, row "└" "┴" "┘" (edge '─')]

/-- A table of named values without a heading, with a title above it. -/
def namedValues (title : String) (rows : List (String × String)) : List String :=
  let names := (rows.map fun r => r.1.length).foldl max 0
  let values := (rows.map fun r => r.2.length).foldl max 0
  let edge := [rule '─' (names + 2), rule '─' (values + 2)]
  centred (tableWidth [names, values]) title
    ++ [row "┌" "┬" "┐" edge]
    ++ rows.map (fun (n, v) =>
      row "│" "│" "│" [" " ++ Text.padRight names n ++ " ", " " ++ Text.padRight values v ++ " "])
    ++ [row "└" "┴" "┘" edge]

end Chip8.Console
