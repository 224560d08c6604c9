import Mosaic.Proofs.Action.Match
import Mosaic.Proofs.Canvas.Edit

/-!
# What the tiles depend on

The operations on tiles read the sheet, the configuration and the tiles of a canvas, and write
tiles. So they come to the same on two canvases that agree in these, whatever else differs. A
relation `SeesTiles` when it asks for as much and goes on to hold when a tile of both canvases is
filled.
-/

namespace Mosaic

namespace Canvas

/-- Canvases that `R` relates agree in all that the operations on tiles read, and `R` relates them
still when the same tile is filled on both. -/
structure SeesTiles (R : Canvas → Canvas → Prop) : Prop where
  sheet : ∀ {canvas other}, R canvas other → other.sheet = canvas.sheet
  config : ∀ {canvas other}, R canvas other → other.config = canvas.config
  tiles : ∀ {canvas other}, R canvas other → other.tiles = canvas.tiles
  put : ∀ {canvas other} (i sprite), R canvas other → R (canvas.put i sprite) (other.put i sprite)

variable {R : Canvas → Canvas → Prop} {canvas other : Canvas}

theorem SeesTiles.bounds (hR : SeesTiles R) (h : R canvas other) :
    canvas.bounds = other.bounds := by
  rw [Canvas.bounds, Canvas.bounds, hR.config h]

theorem SeesTiles.clampX (hR : SeesTiles R) (h : R canvas other) (x : Int) :
    canvas.clampX x = other.clampX x := by
  rw [Canvas.clampX, Canvas.clampX, hR.config h]

theorem SeesTiles.clampY (hR : SeesTiles R) (h : R canvas other) (y : Int) :
    canvas.clampY y = other.clampY y := by
  rw [Canvas.clampY, Canvas.clampY, hR.config h]

theorem SeesTiles.tileIndex (hR : SeesTiles R) (h : R canvas other) (x y : Int) :
    canvas.tileIndex x y = other.tileIndex x y := by
  rw [Canvas.tileIndex, Canvas.tileIndex, hR.config h]

theorem SeesTiles.tile (hR : SeesTiles R) (h : R canvas other) (x y : Int) :
    canvas.tile x y = other.tile x y := by
  simp only [Canvas.tile, stored, hR.tileIndex h, hR.tiles h]

theorem SeesTiles.grid (hR : SeesTiles R) (h : R canvas other) : canvas.grid = other.grid := by
  simp only [Canvas.grid, hR.config h, hR.tile h]

theorem SeesTiles.occupied (hR : SeesTiles R) (h : R canvas other) :
    canvas.occupied = other.occupied := by
  simp only [Canvas.occupied, hR.config h, hR.tiles h]

theorem matches_clampX (hR : SeesTiles R) (x : Int) :
    Action.Matches R (Action.query fun canvas => canvas.clampX x)
      (Action.query fun canvas => canvas.clampX x) :=
  Action.matches_query fun _ _ h => hR.clampX h x

theorem matches_clampY (hR : SeesTiles R) (y : Int) :
    Action.Matches R (Action.query fun canvas => canvas.clampY y)
      (Action.query fun canvas => canvas.clampY y) :=
  Action.matches_query fun _ _ h => hR.clampY h y

theorem matches_tile (hR : SeesTiles R) (x y : Int) :
    Action.Matches R (Action.query fun canvas => canvas.tile x y)
      (Action.query fun canvas => canvas.tile x y) :=
  Action.matches_query fun _ _ h => hR.tile h x y

theorem matches_store (hR : SeesTiles R) (i : Nat) (sprite : Option SpriteId) :
    Action.Matches R (store i sprite) (store i sprite) :=
  Action.matches_modify fun _ _ h => hR.put i sprite h

theorem matches_setTile (hR : SeesTiles R) (sprite : Option SpriteId) (x y : Int) :
    Action.Matches R (setTile sprite x y) (setTile sprite x y) := by
  refine Action.matches_bind (Action.matches_query fun s t h => hR.tileIndex h x y) fun i => ?_
  refine Action.matches_bind (Action.matches_query fun s t h => ?_) fun _ => matches_store hR i _
  rw [hR.sheet h]

theorem matches_copyCharacter (hR : SeesTiles R) (block : Block) (character : Char) (i : Nat) :
    Action.Matches R (copyCharacter block character i) (copyCharacter block character i) := by
  unfold copyCharacter
  split
  · exact Action.matches_pure ()
  · refine Action.matches_bind (Action.matches_query fun s t h => ?_) fun sprite => ?_
    · rw [hR.sheet h]
    · refine Action.matches_bind (Action.matches_query fun s t h => ?_) fun _ =>
        matches_store hR _ sprite
      rw [hR.sheet h]

theorem matches_copyText (hR : SeesTiles R) (target : Rect) (text : List Char) :
    Action.Matches R (copyText target text) (copyText target text) := by
  refine Action.matches_bind (Action.matches_query fun s t h => hR.bounds h) fun grid => ?_
  let block : Block := ⟨target, grid.clip target, grid.width.toNat⟩
  have hcopy : Action.Matches R (copyAll block text.zipIdx) (copyAll block text.zipIdx) :=
    Action.matches_each fun entry _ => matches_copyCharacter hR block entry.1 entry.2
  dsimp only
  split
  · exact Action.matches_fault _
  · split
    · exact Action.matches_fault _
    · split
      · exact Action.matches_bind (Action.matches_note _ _) fun _ => hcopy
      · exact hcopy

end Canvas

end Mosaic
