import Mosaic.Maze.Game
import Mosaic.Window.App

/-!
# The maze as a program

`Program.scene` shows the game in a window, and `Program.play` runs it with the arguments of a
command line: the first one, if it is a number of 64 bits, is the seed of all random choices. The
answer is what the process leaves behind.
-/

namespace Mosaic.Program

variable {ρ : Type}

/-- Runs an action of the game on the canvas of a stage. -/
def onMatch {α : Type} (action : Action (Match ρ) α) : Action (Shown (Game ρ)) α :=
  action.part (fun shown => ⟨shown.scene, shown.stage.canvas⟩) fun m shown =>
    ⟨m.game, { shown.stage with canvas := m.canvas }⟩

/-- The sheet of the maze as a canvas sees it. -/
def sheet : Action (Game ρ) (Except SetupError Sheet) := do
  let made ← Action.ofExcept Sprites.sheet
  return made.map GridSheet.toSheet

/-- The game as a scene. It never asks to quit. -/
def scene [RandomSource ρ] : Scene (Game ρ) where
  config := Game.config
  sheet := sheet
  start := onMatch Game.begin
  frame elapsed := do
    onMatch (Game.frame elapsed)
    return true

/-- The seed of a program that is not given one. -/
def standardSeed : Nat := 0x5eed

/-- The value of a text of decimal digits, of which there is at least one. -/
def decimal? (digits : List Char) : Option Nat :=
  if digits ≠ [] ∧ digits.all Char.isDigit then
    some (digits.foldl (fun n c => n * 10 + (c.toNat - '0'.toNat)) 0)
  else none

/-- The number of 64 bits that a text of decimal digits stands for; a plus sign may lead. -/
def seed? (argument : List Char) : Option Nat :=
  let digits := match argument with
    | '+' :: digits => digits
    | digits => digits
  (decimal? digits).filter fun n => n < Bounded.Width.bits64.count

/-- The seed that the arguments of a command line ask for. -/
def seed (arguments : List String) : Nat :=
  (arguments.head?.bind fun argument => seed? argument.toList).getD standardSeed

def options : WindowOptions := { WindowOptions.standard with title := "spritecanvas maze" }

/-- What a process leaves behind. -/
structure Exit where
  code : Nat
  /-- The text written to the standard error stream. -/
  errors : String
  notes : List Note

/-- The exit code of a run that ended with an error. -/
def failed : Nat := 1

/-- The exit code of a run that stopped with a fault. -/
def stopped : Nat := 101

def exitOf {σ : Type} : Outcome σ (Except RunError Unit) → Exit
  | ⟨.ok (.ok ()), _, notes⟩ => ⟨0, "", notes⟩
  | ⟨.ok (.error e), _, notes⟩ =>
    match e.message with
    | .ok reason => ⟨failed, "Error: " ++ reason ++ "\n", notes⟩
    | .error fault => ⟨stopped, fault.message ++ "\n", notes⟩
  | ⟨.error fault, _, notes⟩ => ⟨stopped, fault.message ++ "\n", notes⟩

/-- Runs the maze with the arguments of a command line. -/
def play (arguments : List String) (platform : Platform) : Exit :=
  let game := Game.start (Xoshiro.ofSeed (UInt64.ofNat (seed arguments)))
  exitOf (App.run scene options platform game)

end Mosaic.Program
