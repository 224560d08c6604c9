import Mathlib.Data.List.Basic

/-!
# Counting row by row

In a grid with a given number of columns, the place in column `x` and row `y` has the number
`y * columns + x`. Tiles, the cells of a sheet and the pixels of an image are all stored by this
number. Its remainder by `columns` is the column again and its quotient the row.
-/

namespace Mosaic.RowMajor

variable {columns rows x y : Nat}

theorem number_lt (hx : x < columns) (hy : y < rows) : y * columns + x < columns * rows := by
  calc y * columns + x < y * columns + columns := Nat.add_lt_add_left hx _
    _ = (y + 1) * columns := (Nat.succ_mul y columns).symm
    _ ≤ rows * columns := Nat.mul_le_mul_right columns hy
    _ = columns * rows := Nat.mul_comm _ _

theorem number_div (hx : x < columns) : (y * columns + x) / columns = y := by
  rw [Nat.mul_comm, Nat.mul_add_div (Nat.zero_lt_of_lt hx), Nat.div_eq_of_lt hx, Nat.add_zero]

/-- The numbers of a grid are those of its rows, one after the other. -/
theorem range_mul (columns rows : Nat) :
    List.range (columns * rows) =
      (List.range rows).flatMap fun y => (List.range columns).map fun x => y * columns + x := by
  induction rows with
  | zero => rfl
  | succ rows ih =>
      rw [Nat.mul_succ, List.range_add, ih, List.range_succ, List.flatMap_append,
        Nat.mul_comm columns rows]
      simp

end Mosaic.RowMajor
