import Mosaic.Canvas.Basic

/-!
# Editing a canvas

`Canvas.setTile` and `Canvas.copyText` fill tiles, `Canvas.setSprite` fills a slot, and
`Canvas.clear` empties all. A call that breaks its contract stops with a fault. Only
`Canvas.copyText` can stop half way: it fills the tiles of its block one after the other, and those
filled before the character that stopped it stay filled.
-/

namespace Mosaic.Canvas

/-- Fills the tile stored at a place. -/
def store (index : Nat) (sprite : Option SpriteId) : Action Canvas Unit :=
  .modify fun canvas =>
    match canvas with
    | ⟨sheet, active, tiles, slots, arena⟩ =>
      ⟨sheet, active, tiles.setIfInBounds index sprite, slots, arena⟩

/-- Fills or empties one tile. -/
def setTile (sprite : Option SpriteId) (x y : Int) : Action Canvas Unit := do
  let index ← Action.query fun canvas => canvas.tileIndex x y
  Action.query fun canvas => canvas.sheet.checkOption sprite
  store index sprite

/-- A block of tiles to be filled from a text of one character for each tile. -/
structure Block where
  /-- The tiles, of which some may lie outside the grid. -/
  target : Rect
  /-- The tiles inside the grid. -/
  clipped : Rect
  /-- The number of tiles of a row of the grid. -/
  stride : Nat

/-- The tile of character number `i` of a block's text, unless it has no coordinates or lies
outside the grid. -/
def Block.place (block : Block) (i : Nat) : Option Point :=
  let columns := block.target.width.toNat
  let p : Point := ⟨block.target.x + (i % columns : Nat), block.target.y + (i / columns : Nat)⟩
  if Bounded.FitsSigned p.x ∧ Bounded.FitsSigned p.y ∧ p ∈ block.clipped then some p else none

/-- Fills the tile of character number `i` with the sprite that the character stands for. -/
def copyCharacter (block : Block) (character : Char) (i : Nat) : Action Canvas Unit := do
  match block.place i with
  | none => return ()
  | some p =>
    let sprite ← Action.query fun canvas => .ok (canvas.sheet.spriteFor character)
    Action.query fun canvas => canvas.sheet.checkOption sprite
    store (p.y.toNat * block.stride + p.x.toNat) sprite

/-- Fills a block of tiles from a text, row by row. Characters without a sprite empty their tile,
and tiles outside the grid are left out. -/
def copyText (target : Rect) (text : List Char) : Action Canvas Unit := do
  let grid ← Action.query Canvas.bounds
  if target.width < 0 ∨ target.height < 0 then
    Action.fault (.negativeMap target.width target.height)
  else
    let needed := target.width.toNat * target.height.toNat
    if text.length ≠ needed then
      Action.fault (.mapLength target.width target.height needed text.length)
    else
      let clipped := grid.clip target
      if clipped.area < needed then
        let whole := target.text
        let part := clipped.text
        let dropped := needed - clipped.area
        Action.log .trace s!"char map {whole} clipped to {part}, {dropped} cells dropped"
      let block : Block := ⟨target, clipped, grid.width.toNat⟩
      Action.each (fun (character, i) => copyCharacter block character i) text.zipIdx

/-- Fills or empties a slot. -/
def setSprite (slot : Nat) (sprite : Option SpriteId) (bounds : Rect) : Action Canvas Unit := do
  Action.query fun canvas => canvas.checkSlot slot
  Action.query fun canvas => canvas.sheet.checkOption sprite
  Action.modify fun canvas =>
    { canvas with slots := canvas.slots.setIfInBounds slot (sprite.map fun id => ⟨id, bounds⟩) }

/-- The canvas with every tile and every slot empty. -/
def emptied (canvas : Canvas) : Canvas :=
  { canvas with
    tiles := Array.replicate Limits.tiles none
    slots := Array.replicate Limits.slots none }

/-- Empties every tile and every slot. -/
def clear : Action Canvas Unit := do
  let _ ← Action.query Canvas.requireActive
  Action.modify emptied

end Mosaic.Canvas
