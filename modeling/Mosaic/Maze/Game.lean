import Mosaic.Maze.World

/-!
# The game

A `Game` lets its world tick at a fixed rate, however the time between frames is cut. Time that
does not make up a tick waits for the next frame. A frame runs at most `Game.maxTicks` ticks; one
that reaches the bound forgets the time that is left.
-/

namespace Mosaic

/-- A world with the time that it has not used yet. -/
structure Game (ρ : Type) where
  world : World ρ
  /-- The unused time in nanoseconds. -/
  pending : Nat
  deriving DecidableEq

/-- A game and the canvas that shows it. -/
structure Match (ρ : Type) where
  game : Game ρ
  canvas : Canvas

namespace Game

variable {ρ : Type}

/-- The nanoseconds between two ticks. -/
def tickTime : Nat := 16667000

def maxTicks : Nat := 8

/-- The game before the first frame. -/
def start (random : ρ) : Game ρ := ⟨.start random, 0⟩

/-- The geometry of the canvas: the maze, with a slot for each actor. -/
def config (game : Game ρ) : Config :=
  ⟨Level.columns, Level.rows, Sprites.side, Sprites.side, game.world.slots⟩

def onPlay {α : Type} (action : Action (Play ρ) α) : Action (Match ρ) α :=
  action.part (fun m => ⟨m.game.world, m.canvas⟩) fun play m =>
    ⟨{ m.game with world := play.world }, play.canvas⟩

/-- Sets the unused time. -/
def setPending (time : Nat) : Action (Match ρ) Unit :=
  .modify fun m => { m with game := { m.game with pending := time } }

def begin : Action (Match ρ) Unit := do
  onPlay World.resetLevel
  onPlay World.sync

variable [RandomSource ρ]

/-- Ticks while there is time for it, at most `left` times, and answers how often. -/
def catchUp : (left : Nat) → Action (Match ρ) Nat
  | 0 => return 0
  | left + 1 => do
    let m ← Action.get
    if tickTime ≤ m.game.pending then
      setPending (m.game.pending - tickTime)
      onPlay World.tick
      let more ← catchUp left
      return more + 1
    else return 0

/-- Passes the time since the frame before and shows the actors where they are then. -/
def frame (elapsed : Nat) : Action (Match ρ) Unit := do
  let m ← Action.get
  setPending (m.game.pending + elapsed)
  let ticks ← catchUp maxTicks
  if ticks = maxTicks then setPending 0
  onPlay World.sync

end Game

end Mosaic
