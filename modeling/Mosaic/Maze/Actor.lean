import Mosaic.Maze.Level
import Mosaic.Maze.Sprites

/-!
# Actors

An `Actor` moves through the maze pixel by pixel in one of four directions (`Heading`). It is
`aligned` when it sits exactly on a tile.
-/

namespace Mosaic

/-- A direction of movement. -/
inductive Heading where
  | up
  | right
  | down
  | left
  deriving DecidableEq, Repr

namespace Heading

/-- All directions, clockwise from up. -/
def all : List Heading := [.up, .right, .down, .left]

def index : Heading → Nat
  | .up => 0
  | .right => 1
  | .down => 2
  | .left => 3

def delta : Heading → Point
  | .up => ⟨0, -1⟩
  | .right => ⟨1, 0⟩
  | .down => ⟨0, 1⟩
  | .left => ⟨-1, 0⟩

def reverse : Heading → Heading
  | .up => .down
  | .right => .left
  | .down => .up
  | .left => .right

def name : Heading → String
  | .up => "Up"
  | .right => "Right"
  | .down => "Down"
  | .left => "Left"

@[simp] theorem reverse_reverse (h : Heading) : h.reverse.reverse = h := by cases h <;> rfl

end Heading

/-- Something that moves through the maze. -/
structure Actor where
  sprite : SpriteId
  /-- The top-left corner in pixels. -/
  pos : Point
  heading : Heading
  deriving DecidableEq, Repr

namespace Actor

/-- The width and height of a tile in pixels. -/
def tileSide : Int := Sprites.side

/-- An actor that sits on a tile. -/
def onTile (sprite : SpriteId) (tile : Point) (heading : Heading) : Actor :=
  ⟨sprite, ⟨tile.x * tileSide, tile.y * tileSide⟩, heading⟩

def aligned (a : Actor) : Bool := a.pos.x % tileSide = 0 ∧ a.pos.y % tileSide = 0

/-- The tile that holds the top-left corner. -/
def tile (a : Actor) : Point := ⟨a.pos.x / tileSide, a.pos.y / tileSide⟩

/-- The neighbour of the actor's tile in a direction. A tile's coordinates are at most an eighth of
a pixel's, so they have a neighbour on every side. -/
def neighbour (a : Actor) (h : Heading) : Point := ⟨a.tile.x + h.delta.x, a.tile.y + h.delta.y⟩

/-- The actor one pixel further on. -/
def moved (a : Actor) : Except Fault Actor := do
  let pos ← a.pos.add a.heading.delta
  return { a with pos := pos }

/-- The directions that lead to an open tile, other than back. -/
def ways (a : Actor) : List Heading :=
  Heading.all.filter fun h => h ≠ a.heading.reverse ∧ Level.isOpen (a.neighbour h)

end Actor

end Mosaic
