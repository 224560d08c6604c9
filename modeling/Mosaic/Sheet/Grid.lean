import Mosaic.Sheet.Basic
import Mosaic.Table

/-!
# Grid sheets

A `GridSheet` cuts an image into cells of one size, numbered row by row from the top-left one.
Cells that the right or bottom edge cuts off are left out. A character map gives sprites names;
`GridSheet.map` refuses a sprite that is not on the sheet, so every name leads to a cell.
-/

namespace Mosaic

/-- A sheet cut into cells of one size. -/
structure GridSheet where
  image : Image
  spriteWidth : Nat
  spriteHeight : Nat
  columns : Nat
  rows : Nat
  names : Table Char SpriteId

namespace GridSheet

/-- The greatest number of sprites, one for each number of 16 bits. -/
def maxSprites : Nat := 65536

/-- The sheet that cuts `image` into cells. A cell must not be empty or larger than the image, and
there must not be more cells than there are sprite numbers. -/
def cut (image : Image) (spriteWidth spriteHeight : Nat) :
    Except Fault (Except SetupError GridSheet) :=
  if spriteWidth = 0 ∨ spriteHeight = 0 ∨ image.width < spriteWidth ∨
      image.height < spriteHeight then
    .ok (.error (.invalidSpriteSize spriteWidth spriteHeight))
  else do
    let columns := image.width / spriteWidth
    let rows := image.height / spriteHeight
    let cells ← Bounded.mul .bits32 columns rows
    if maxSprites < cells then return .error (.invalidSpriteSize spriteWidth spriteHeight)
    else return .ok ⟨image, spriteWidth, spriteHeight, columns, rows, .empty⟩

def count (g : GridSheet) : Nat := g.columns * g.rows

/-- The place of a cell on the image: left, top, width and height. -/
structure Cell where
  x : Nat
  y : Nat
  width : Nat
  height : Nat
  deriving DecidableEq, Repr

/-- The cell of a sprite, also of one beyond the last row. -/
def cell (g : GridSheet) (id : SpriteId) : Except Fault Cell := do
  let x ← Bounded.mul .bits32 (id.index % g.columns) g.spriteWidth
  let y ← Bounded.mul .bits32 (id.index / g.columns) g.spriteHeight
  return ⟨x, y, g.spriteWidth, g.spriteHeight⟩

/-- The texture coordinates of a sprite: the edges of its cell as parts of the image. -/
def uv (g : GridSheet) (id : SpriteId) : Except Fault UvRect := do
  let cell ← g.cell id
  let right ← Bounded.add .bits32 cell.x cell.width
  let bottom ← Bounded.add .bits32 cell.y cell.height
  return {
    u0 := .ratio cell.x g.image.width
    v0 := .ratio cell.y g.image.height
    u1 := .ratio right g.image.width
    v1 := .ratio bottom g.image.height }

/-- The sprite that a character stands for. -/
def spriteFor (g : GridSheet) (name : Char) : Option SpriteId := g.names.get? name

/-- A grid sheet as a canvas sees it. -/
def toSheet (g : GridSheet) : Sheet where
  count := g.count
  spriteFor := g.spriteFor
  uv := g.uv
  image := g.image

/-- The sheet on which `name` stands for the sprite `id`, whatever it stood for before. -/
def map (g : GridSheet) (name : Char) (id : SpriteId) : Except Fault GridSheet := do
  g.toSheet.check id
  return { g with names := g.names.insert name id }

/-- Names the sprites from `first` on by the characters of a list, of which the head has the place
`place` in its text. A place is cut to 16 bits before it is added. -/
def mapFrom (g : GridSheet) (first : SpriteId) : (place : Nat) → List Char → Except Fault GridSheet
  | _, [] => .ok g
  | place, name :: rest => do
    let id ← Bounded.add .bits16 first.index (place % 65536)
    let named ← g.map name ⟨id⟩
    named.mapFrom first (place + 1) rest

/-- The sheet on which the characters of `names` stand for consecutive sprites from `first` on. -/
def mapText (g : GridSheet) (names : List Char) (first : SpriteId) : Except Fault GridSheet :=
  g.mapFrom first 0 names

/-- The sheet after entries of a character map made one after the other, and the fault that ended
them before the last. -/
def mapAll (g : GridSheet) : List (Char × SpriteId) → GridSheet × Except Fault Unit
  | [] => (g, .ok ())
  | (name, id) :: rest =>
    match g.map name id with
    | .ok named => named.mapAll rest
    | .error fault => (g, .error fault)

end GridSheet

end Mosaic
