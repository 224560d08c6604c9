import Mosaic.Maze.Program

/-!
# Command line

Plays the maze off screen for a minute at sixty frames a second.
-/

namespace Mosaic

/-- The events of a minute: the window opens, is redrawn and is closed. -/
def minute : List WindowEvent :=
  .resumed :: List.replicate 3600 (.redraw Game.tickTime) ++ [.close]

end Mosaic

/-- Runs the program, writes its error text and ends with its exit code. -/
def main (arguments : List String) : IO UInt32 := do
  let platform := { Mosaic.Platform.ordinary with events := Mosaic.minute }
  let exit := Mosaic.Program.play arguments platform
  (← IO.getStderr).putStr exit.errors
  return UInt32.ofNat exit.code
