import Mosaic.Canvas.Stage

/-!
# Commands of a stage

`Stage.Command` lists everything that can be asked of a canvas on its stage, and `Stage.Reply` what
can be answered, so that a run is a list of commands. `Stage.Command.run` carries a command out.
-/

namespace Mosaic.Stage

/-- What can be asked of a canvas on its stage. -/
inductive Command where
  | setup (config : Config)
  | discard
  | config
  | geometry
  | clamp (x y : Int)
  | copyText (target : Rect) (text : List Char)
  | setTile (sprite : Option SpriteId) (x y : Int)
  | tile (x y : Int)
  | grid
  | occupied
  | setSprite (slot : Nat) (sprite : Option SpriteId) (bounds : Rect)
  | sprite (slot : Nat)
  | activeSprites
  | clear
  | updateVertices
  | vertices
  | render
  | resources
  | sheetCount
  deriving DecidableEq, Repr

/-- The size of a canvas in tiles, slots and pixels. -/
structure Geometry where
  columns : Int
  rows : Int
  slots : Nat
  width : Int
  height : Int
  bounds : Rect
  deriving DecidableEq, Repr

/-- What a command answers. -/
inductive Reply where
  | done
  | setup (result : Except SetupError Unit)
  | config (config : Config)
  | geometry (geometry : Geometry)
  | clamped (x y : Int)
  | tile (sprite : Option SpriteId)
  | grid (rows : List (List (Option SpriteId)))
  | count (n : Nat)
  | sprite (sprite : Option Sprite)
  | vertices (vertices : List Vertex)
  | resources (resources : Option ResourceSet)

def geometry (canvas : Canvas) : Except Fault Geometry := do
  let c ← canvas.config
  let width ← canvas.width
  let height ← canvas.height
  let bounds ← canvas.bounds
  return ⟨c.columns, c.rows, c.slots, width, height, bounds⟩

variable {δ : Type}

/-- Answers a question about the canvas. -/
def answer {α : Type} (reply : α → Reply) (question : Canvas → Except Fault α) :
    Action (Stage δ) Reply :=
  Action.query fun stage => reply <$> question stage.canvas

variable [Device δ]

def Command.run : Command → Action (Stage δ) Reply
  | .setup c => Reply.setup <$> Stage.setup c
  | .discard => do
    Stage.discard
    return .done
  | .config => answer .config Canvas.config
  | .geometry => answer .geometry Stage.geometry
  | .clamp x y => answer id fun canvas => do
    let x ← canvas.clampX x
    let y ← canvas.clampY y
    return .clamped x y
  | .copyText target text => do
    onCanvas (Canvas.copyText target text)
    return .done
  | .setTile id? x y => do
    onCanvas (Canvas.setTile id? x y)
    return .done
  | .tile x y => answer .tile fun canvas => canvas.tile x y
  | .grid => answer .grid Canvas.grid
  | .occupied => answer .count Canvas.occupied
  | .setSprite slot id? bounds => do
    onCanvas (Canvas.setSprite slot id? bounds)
    return .done
  | .sprite slot => answer .sprite fun canvas => canvas.sprite slot
  | .activeSprites => answer .count Canvas.activeSprites
  | .clear => do
    onCanvas Canvas.clear
    return .done
  | .updateVertices => do
    onCanvas Canvas.updateVertices
    answer .vertices fun canvas => .ok canvas.vertices
  | .vertices => answer .vertices fun canvas => .ok canvas.vertices
  | .render => do
    Stage.render
    return .done
  | .resources => answer .resources fun canvas => .ok canvas.resources
  | .sheetCount => answer .count fun canvas => .ok canvas.sheet.count

end Mosaic.Stage
