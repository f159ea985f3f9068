/-
  OvsdbModels/Source/Align.lean
  =============================
  Lining up cells in columns.

  Every cell is padded to the width of the widest cell of its column and followed by one space,
  except the last of its row: it needs no padding and does not count for the width.  Empty cells at
  the end of a row are left out.  Widths count characters.
-/

namespace OvsdbModels.Source

/-- The greater width in each place of two lists; a missing width is zero. -/
def widest : List Nat → List Nat → List Nat
  | [], ws => ws
  | ws, [] => ws
  | v :: vs, w :: ws => max v w :: widest vs ws

/-- The widths of the cells of a row that may be padded. -/
def rowWidths (row : List String) : List Nat := row.dropLast.map String.length

def columnWidths (rows : List (List String)) : List Nat :=
  rows.foldl (fun widths row => widest widths (rowWidths row)) []

/-- A row without the empty cells at its end. -/
def keptCells (row : List String) : List String :=
  (row.reverse.dropWhile String.isEmpty).reverse

/-- The line of a row of which the empty cells at the end have been left out. -/
def lineOf (widths : List Nat) : List String → String
  | [] => ""
  | [last] => last
  | cell :: cells =>
    let width := widths.headD 0
    let padding := String.ofList (List.replicate (width - cell.length + 1) ' ')
    cell ++ padding ++ lineOf widths.tail cells

def align (rows : List (List String)) : List String :=
  let widths := columnWidths rows
  rows.map fun row => lineOf widths (keptCells row)

end OvsdbModels.Source
