/-!
# Character grids

An index of a multi-byte character set is a grid: a pointer, counted from the first cell of row
zero, names the cell at its quotient and remainder by the width.
-/

namespace Checkup.Encoding

/-- The rows of a grid from `first` on. An absent cell and a replacement character are empty. -/
structure Grid where
  width : Nat
  first : Nat
  rows : Array (Array Char)

namespace Grid

def ofRows (width first : Nat) (rows : List String) : Grid :=
  ⟨width, first, (rows.map fun row => row.toList.toArray).toArray⟩

def cell? (grid : Grid) (pointer : Nat) : Option Char :=
  let row := pointer / grid.width
  if row < grid.first then none
  else
    match grid.rows[row - grid.first]? with
    | none => none
    | some cells =>
      match cells[pointer % grid.width]? with
      | some char => if char = '\ufffd' then none else some char
      | none => none

end Grid

end Checkup.Encoding
