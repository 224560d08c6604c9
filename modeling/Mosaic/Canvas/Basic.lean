import Mosaic.Canvas.Config
import Mosaic.Vertex.Arena

/-!
# Canvases

A `Canvas` is a grid of tiles, each empty or showing a sprite of a sheet, and a few slots for
sprites that are placed freely. Storage has a fixed size; a canvas that is set up uses the part of
it that its configuration asks for, with the tiles of a row side by side and the rows one after
the other. A canvas that is not set up has no configuration, and every question about its tiles,
slots and geometry stops with a fault.

This module holds the type and its questions. `Mosaic.Canvas.Edit` changes tiles and slots,
`Mosaic.Canvas.Vertices` lists the vertices, and `Mosaic.Canvas.Stage` sets up, shows and discards.
-/

namespace Mosaic

/-- A sprite shown in a rectangle of the canvas, in pixels. -/
structure Sprite where
  id : SpriteId
  bounds : Rect
  deriving DecidableEq, Repr

/-- What a canvas holds while it is set up. -/
structure Active where
  config : Config
  resources : ResourceSet
  deriving DecidableEq, Repr

/-- A grid of tiles with sprite slots. -/
structure Canvas where
  sheet : Sheet
  active : Option Active
  /-- The tiles, a row after the other; only those of the grid count. -/
  tiles : Array (Option SpriteId)
  /-- The sprite slots; only as many as the configuration asks for count. -/
  slots : Array (Option Sprite)
  /-- The vertices listed last. -/
  arena : Arena

namespace Canvas

/-- A canvas that was never set up. -/
def fresh (sheet : Sheet) : Canvas where
  sheet := sheet
  active := none
  tiles := Array.replicate Limits.tiles none
  slots := Array.replicate Limits.slots none
  arena := .ofCapacity Limits.vertices

def isValid (canvas : Canvas) : Bool := canvas.active.isSome

/-- What the canvas holds; refused when it is not set up. -/
def requireActive (canvas : Canvas) : Except Fault Active :=
  match canvas.active with
  | some active => .ok active
  | none => .error .canvasUnset

def config (canvas : Canvas) : Except Fault Config := do
  let active ← canvas.requireActive
  return active.config

def resources (canvas : Canvas) : Option ResourceSet := canvas.active.map Active.resources

def bounds (canvas : Canvas) : Except Fault Rect := do
  let c ← canvas.config
  return ⟨0, 0, c.columns, c.rows⟩

/-- The width in pixels. -/
def width (canvas : Canvas) : Except Fault Int := do
  let c ← canvas.config
  c.width

/-- The height in pixels. -/
def height (canvas : Canvas) : Except Fault Int := do
  let c ← canvas.config
  c.height

/-- The number in `0 .. size` nearest to a coordinate, the right end excluded. -/
def clampTo (size n : Int) : Int := max 0 (min n (size - 1))

/-- The column of the grid nearest to a coordinate. -/
def clampX (canvas : Canvas) (x : Int) : Except Fault Int := do
  let c ← canvas.config
  return clampTo c.columns x

/-- The row of the grid nearest to a coordinate. -/
def clampY (canvas : Canvas) (y : Int) : Except Fault Int := do
  let c ← canvas.config
  return clampTo c.rows y

/-- The place of a tile in the storage; refused outside the grid. -/
def tileIndex (canvas : Canvas) (x y : Int) : Except Fault Nat := do
  let c ← canvas.config
  if (0 ≤ x ∧ x < c.columns) ∧ 0 ≤ y ∧ y < c.rows then
    return y.toNat * c.columns.toNat + x.toNat
  else .error (.outsideGrid x y c.columns c.rows)

/-- What is stored at a place. -/
def stored (canvas : Canvas) (index : Nat) : Option SpriteId := (canvas.tiles[index]?).join

/-- The sprite of a tile; refused outside the grid. -/
def tile (canvas : Canvas) (x y : Int) : Except Fault (Option SpriteId) := do
  let index ← canvas.tileIndex x y
  return canvas.stored index

/-- The sprites of all tiles, row by row. -/
def grid (canvas : Canvas) : Except Fault (List (List (Option SpriteId))) := do
  let c ← canvas.config
  (List.range c.rows.toNat).mapM fun (y : Nat) =>
    (List.range c.columns.toNat).mapM fun (x : Nat) => canvas.tile x y

/-- The number of tiles that show a sprite. -/
def occupied (canvas : Canvas) : Except Fault Nat := do
  let c ← canvas.config
  let size ← Bounded.mulSigned c.columns c.rows
  return (canvas.tiles.toList.take size.toNat).countP Option.isSome

/-- Refuses a slot that is not among those of the configuration. -/
def checkSlot (canvas : Canvas) (slot : Nat) : Except Fault Unit := do
  let c ← canvas.config
  if slot < c.slots then return () else .error (.slotOutOfRange slot c.slots)

def sprite (canvas : Canvas) (slot : Nat) : Except Fault (Option Sprite) := do
  canvas.checkSlot slot
  return (canvas.slots[slot]?).join

/-- The number of slots that show a sprite. -/
def activeSprites (canvas : Canvas) : Except Fault Nat := do
  let c ← canvas.config
  return (canvas.slots.toList.take c.slots).countP Option.isSome

end Canvas

end Mosaic
