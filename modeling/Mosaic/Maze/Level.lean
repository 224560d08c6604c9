import Mosaic.Geometry.Point

/-!
# The level

`Level.text` is the maze, a character for each tile and row after row: `#` is a wall, `-` the door
of the ghosts' house, `.` a dot and `o` a pill. Walls and the door block movement
(`Level.isOpen`); dots and pills are food.
-/

namespace Mosaic.Level

def columns : Nat := 19

def rows : Nat := 15

def lines : List String := [
  "###################",
  "#o.......#.......o#",
  "#.##.###.#.###.##.#",
  "#.................#",
  "#.##.#.#####.#.##.#",
  "#....#...#...#....#",
  "####.###.#.###.####",
  "#.......#-#.......#",
  "####.#.#...#.#.####",
  "#....#.......#....#",
  "#.##.#.#####.#.##.#",
  "#o.#.....#.....#.o#",
  "##.#.###.#.###.#.##",
  "#.................#",
  "###################"]

/-- The characters of the maze, row after row. -/
def text : List Char := lines.flatMap String.toList

/-- A character stands for a wall or the door. -/
def Blocks (c : Char) : Prop := c = '#' ∨ c = '-'

instance (c : Char) : Decidable (Blocks c) := inferInstanceAs (Decidable (_ ∨ _))

/-- A character stands for a dot or a pill. -/
def IsFood (c : Char) : Prop := c = '.' ∨ c = 'o'

instance (c : Char) : Decidable (IsFood c) := inferInstanceAs (Decidable (_ ∨ _))

/-- The character of a tile, or nothing outside the maze. -/
def at? (p : Point) : Option Char :=
  if p.x < 0 ∨ p.y < 0 ∨ (columns : Int) ≤ p.x ∨ (rows : Int) ≤ p.y then none
  else text[(p.y * columns + p.x).toNat]?

/-- Whether an actor can be on a tile. -/
def isOpen (p : Point) : Bool :=
  match at? p with
  | some c => ¬ Blocks c
  | none => false

/-- The number of dots and pills. -/
def food : Nat := text.countP fun c => IsFood c

theorem length_text : text.length = columns * rows := by decide +kernel

theorem food_eq : food = 142 := by decide +kernel

end Mosaic.Level
