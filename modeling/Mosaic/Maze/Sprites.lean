import Mosaic.Sheet.Grid

/-!
# The sprites of the maze

Sprites of 8 by 8 pixels are drawn as text, one character of a palette for each pixel; any other
character is transparent. The sheet puts them side by side, and `Sprites.names` says which
characters of a level they stand for.
-/

namespace Mosaic.Sprites

/-- The width and height of a sprite in pixels. -/
def side : Nat := 8

def columns : Nat := 8

def wall : SpriteId := ⟨0⟩

def dot : SpriteId := ⟨1⟩

def pill : SpriteId := ⟨2⟩

def door : SpriteId := ⟨3⟩

def player : SpriteId := ⟨4⟩

def redGhost : SpriteId := ⟨5⟩

def pinkGhost : SpriteId := ⟨6⟩

def cyanGhost : SpriteId := ⟨7⟩

/-- The sprites that the characters of a level stand for. -/
def names : List (Char × SpriteId) := [('#', wall), ('.', dot), ('o', pill), ('-', door)]

/-- The rows of each sprite, in the order of their numbers. -/
def patterns : List (List String) := [
  ["BBBBBBBB", "B......B", "B.BBBB.B", "B.B..B.B", "B.B..B.B", "B.BBBB.B", "B......B", "BBBBBBBB"],
  ["........", "........", "........", "...WW...", "...WW...", "........", "........", "........"],
  ["........", "..WWWW..", ".WWWWWW.", ".WWWWWW.", ".WWWWWW.", ".WWWWWW.", "..WWWW..", "........"],
  ["........", "........", "........", "PPPPPPPP", "PPPPPPPP", "........", "........", "........"],
  ["..YYYY..", ".YYYYYY.", "YYYYY...", "YYYY....", "YYYY....", "YYYYY...", ".YYYYYY.", "..YYYY.."],
  ["..RRRR..", ".RRRRRR.", "RREERREE", "RRKERRKE", "RRRRRRRR", "RRRRRRRR", "RRRRRRRR", "R.RR.RR."],
  ["..PPPP..", ".PPPPPP.", "PPEEPPEE", "PPKEPPKE", "PPPPPPPP", "PPPPPPPP", "PPPPPPPP", "P.PP.PP."],
  ["..CCCC..", ".CCCCCC.", "CCEECCEE", "CCKECCKE", "CCCCCCCC", "CCCCCCCC", "CCCCCCCC", "C.CC.CC."]]

def palette : Char → Pixel
  | 'B' => ⟨33, 33, 222, 255⟩
  | 'W' => ⟨255, 184, 151, 255⟩
  | 'Y' => ⟨255, 255, 0, 255⟩
  | 'R' => ⟨255, 0, 0, 255⟩
  | 'P' => ⟨255, 184, 255, 255⟩
  | 'C' => ⟨0, 255, 255, 255⟩
  | 'E' => ⟨222, 222, 255, 255⟩
  | 'K' => ⟨33, 33, 222, 255⟩
  | _ => .transparent

/-- The character of a pattern at a pixel of the sheet. -/
def character? (x y : Nat) : Option Char := do
  let pattern ← patterns[y / side * columns + x / side]?
  let row ← pattern[y % side]?
  row.toList[x % side]?

/-- The colour of a pixel of the sheet. -/
def colour (x y : Nat) : Pixel := ((character? x y).map palette).getD .transparent

def rows : Nat := (patterns.length + columns - 1) / columns

def image : Except Fault Image := Image.paint (columns * side) (rows * side) colour

/-- The sheet with the names of its sprites. -/
def sheet : Except Fault (Except SetupError GridSheet) := do
  let picture ← image
  match ← GridSheet.cut picture side side with
  | .error e => return .error e
  | .ok cells =>
    let (named, result) := cells.mapAll names
    result
    return .ok named

end Mosaic.Sprites
