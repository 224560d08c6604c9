import Mosaic.Canvas.Basic

/-!
# The vertices of a canvas

`Canvas.updateVertices` lists one quad for each tile that shows a sprite, row by row, and then one
for each slot that shows one, so that sprites cover tiles. Places on the canvas are parts of its
size in pixels.
-/

namespace Mosaic

/-- The corners of a rectangle of pixels as parts of a canvas of the given size. The right and
bottom edges are exact sums, which may leave the range of coordinates. -/
def Extent.ofPixels (canvasWidth canvasHeight : Int) (r : Rect) : Extent where
  x0 := .ratio r.x canvasWidth
  y0 := .ratio r.y canvasHeight
  x1 := .ratio (r.x + r.width) canvasWidth
  y1 := .ratio (r.y + r.height) canvasHeight

namespace Canvas

/-- The tiles that show a sprite, with column and row, in the order in which they are stored. -/
def shownTiles (canvas : Canvas) (c : Config) : List (Nat × Nat × SpriteId) :=
  let columns := c.columns.toNat
  (canvas.tiles.toList.take (columns * c.rows.toNat)).zipIdx.filterMap fun (tile, i) =>
    tile.map fun id => (i % columns, i / columns, id)

/-- The sprites shown in slots, in the order of the slots. -/
def shownSprites (canvas : Canvas) (c : Config) : List Sprite :=
  (canvas.slots.toList.take c.slots).filterMap id

/-- The rectangle of a tile in pixels. -/
def tileBounds (c : Config) (column row : Nat) : Except Fault Rect := do
  let x ← Bounded.mulSigned column c.tileWidth
  let y ← Bounded.mulSigned row c.tileHeight
  return ⟨x, y, c.tileWidth, c.tileHeight⟩

/-- Adds the quad of a sprite shown in a rectangle of pixels. -/
def pushSprite (sheet : Sheet) (width height : Int) (sprite : Sprite) : Action Arena Unit := do
  let extent := Extent.ofPixels width height sprite.bounds
  let uv ← Action.ofExcept (sheet.uv sprite.id)
  Arena.push ⟨extent, uv⟩

def pushTile (sheet : Sheet) (c : Config) (width height : Int) :
    Nat × Nat × SpriteId → Action Arena Unit
  | (column, row, id) => do
    let bounds ← Action.ofExcept (tileBounds c column row)
    pushSprite sheet width height ⟨id, bounds⟩

def onArena {α : Type} (action : Action Arena α) : Action Canvas α :=
  action.part Canvas.arena fun arena canvas => { canvas with arena := arena }

/-- The vertices listed last. -/
def vertices (canvas : Canvas) : List Vertex := canvas.arena.vertices

/-- The number of vertices listed last. -/
def vertexCount (canvas : Canvas) : Nat := canvas.arena.length

/-- Lists the vertices of the tiles and slots as they are now. -/
def updateVertices : Action Canvas Unit := do
  let c ← Action.query Canvas.config
  let width ← Action.ofExcept c.width
  let height ← Action.ofExcept c.height
  let canvas ← Action.get
  onArena do
    Action.modify Arena.clear
    Action.each (pushTile canvas.sheet c width height) (canvas.shownTiles c)
    Action.each (pushSprite canvas.sheet width height) (canvas.shownSprites c)

end Canvas

end Mosaic
