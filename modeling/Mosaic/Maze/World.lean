import Mosaic.Canvas.Edit
import Mosaic.Maze.Actor
import Mosaic.Maze.Random

/-!
# The world of the maze

A `World` holds a player and three ghosts that wander through the maze. `World.tick` moves each of
them by one pixel: on a tile an actor chooses a new direction among the open ones and turns back
only in a dead end, and the player prefers directions with food. The player empties the tiles of
food that it sits on, and when no food is left the level is copied to the canvas again.
`World.sync` shows every actor in its sprite slot.

The world does not own the canvas; the two meet in a `Play`.
-/

namespace Mosaic

/-- The actors of the maze and how far the game is. -/
structure World (ρ : Type) where
  random : ρ
  player : Actor
  ghosts : List Actor
  /-- The number of dots and pills that are left. -/
  foodLeft : Nat
  levelsCleared : Nat
  deriving DecidableEq

/-- A world and the canvas that shows it. -/
structure Play (ρ : Type) where
  world : World ρ
  canvas : Canvas

namespace World

variable {ρ : Type}

/-- The world before the first tick. -/
def start (random : ρ) : World ρ where
  random := random
  player := .onTile Sprites.player ⟨9, 13⟩ .left
  ghosts := [
    .onTile Sprites.redGhost ⟨9, 9⟩ .left,
    .onTile Sprites.pinkGhost ⟨1, 1⟩ .right,
    .onTile Sprites.cyanGhost ⟨17, 1⟩ .left]
  foodLeft := Level.food
  levelsCleared := 0

/-- The player and the ghosts, in the order of their slots. -/
def actors (world : World ρ) : List Actor := world.player :: world.ghosts

/-- The number of sprite slots that the actors take. -/
def slots (world : World ρ) : Nat := world.actors.length

def onCanvas {α : Type} (action : Action Canvas α) : Action (Play ρ) α :=
  action.part Play.canvas fun canvas play => { play with canvas := canvas }

def change (f : World ρ → World ρ) : Action (Play ρ) Unit :=
  .modify fun play => { play with world := f play.world }

/-- Copies the level to the canvas, so that all food is back. -/
def resetLevel : Action (Play ρ) Unit := do
  onCanvas (Canvas.copyText ⟨0, 0, Level.columns, Level.rows⟩ Level.text)
  change fun world => { world with foodLeft := Level.food }
  let food := Level.food
  Action.log .info s!"level reset, {food} dots"

/-- A tile shows food. -/
def ShowsFood (sprite : Option SpriteId) : Prop :=
  sprite = some Sprites.dot ∨ sprite = some Sprites.pill

instance (sprite : Option SpriteId) : Decidable (ShowsFood sprite) :=
  inferInstanceAs (Decidable (_ ∨ _))

/-- Empties the tile that the player sits on if it shows food. -/
def eat : Action (Play ρ) Unit := do
  let play ← Action.get
  let player := play.world.player
  if player.aligned then
    let x ← onCanvas (Action.query fun canvas => canvas.clampX player.tile.x)
    let y ← onCanvas (Action.query fun canvas => canvas.clampY player.tile.y)
    let sprite ← onCanvas (Action.query fun canvas => canvas.tile x y)
    if ShowsFood sprite then
      onCanvas (Canvas.setTile none x y)
      change fun world => { world with foodLeft := world.foodLeft - 1 }

/-- The directions among `ways` that lead to a tile of the canvas that is not empty. -/
def fed (canvas : Canvas) (a : Actor) (ways : List Heading) : Except Fault (List Heading) :=
  ways.filterM fun h => do
    let grid ← canvas.bounds
    if a.neighbour h ∈ grid then
      let sprite ← canvas.tile (a.neighbour h).x (a.neighbour h).y
      return sprite.isSome
    else return false

/-- The directions that an actor chooses from: those that lead to an open tile other than back, and
of these, for the hungry, only those with food if there are any. -/
def options (canvas : Canvas) (a : Actor) (hungry : Bool) : Except Fault (List Heading) :=
  match a.ways with
  | [] => .ok []
  | ways =>
    if hungry then do
      let withFood ← fed canvas a ways
      return if withFood.isEmpty then ways else withFood
    else .ok ways

variable [RandomSource ρ]

/-- Chooses the direction of an actor that sits on a tile. Without options it turns back, and no
number is drawn. -/
def chooseHeading (a : Actor) (hungry : Bool) : Action (Play ρ) Heading := do
  match ← Action.query fun play => options play.canvas a hungry with
  | [] => return a.heading.reverse
  | first :: others =>
    let play ← Action.get
    let (heading, random) := RandomSource.choose first others play.world.random
    change fun world => { world with random := random }
    return heading

/-- The actor one pixel further on, in a new direction if it sits on a tile. An actor on a tile
that has no open neighbour in its direction stays where it is. -/
def advance (a : Actor) (hungry : Bool) : Action (Play ρ) Actor :=
  if a.aligned then do
    let heading ← chooseHeading a hungry
    let turned := { a with heading := heading }
    if Level.isOpen (turned.neighbour heading) then Action.ofExcept turned.moved
    else return turned
  else Action.ofExcept a.moved

def movePlayer : Action (Play ρ) Unit := do
  let play ← Action.get
  let moved ← advance play.world.player true
  change fun world => { world with player := moved }

def moveGhost (i : Nat) : Action (Play ρ) Unit := do
  let play ← Action.get
  match play.world.ghosts[i]? with
  | none => return ()
  | some ghost =>
    let moved ← advance ghost false
    change fun world => { world with ghosts := world.ghosts.set i moved }

/-- Counts a level as cleared and starts the next one if no food is left. -/
def finishLevel : Action (Play ρ) Unit := do
  let play ← Action.get
  if play.world.foodLeft = 0 then
    let cleared ← Action.ofExcept (Bounded.add .bits32 play.world.levelsCleared 1)
    change fun world => { world with levelsCleared := cleared }
    resetLevel

/-- Moves every actor by one pixel, the player first. -/
def tick : Action (Play ρ) Unit := do
  eat
  movePlayer
  let play ← Action.get
  Action.each moveGhost (List.range play.world.ghosts.length)
  finishLevel

omit [RandomSource ρ]

def showActor : Actor × Nat → Action Canvas Unit
  | (a, slot) =>
    Canvas.setSprite slot (some a.sprite) ⟨a.pos.x, a.pos.y, Actor.tileSide, Actor.tileSide⟩

def sync : Action (Play ρ) Unit := do
  let play ← Action.get
  onCanvas (Action.each showActor play.world.actors.zipIdx)

end World

end Mosaic
