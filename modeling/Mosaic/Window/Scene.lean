import Mosaic.Canvas.Stage
import Mosaic.Gpu.Device

/-!
# Scenes

A `Scene` decides what a window shows: the geometry of the canvas, its sheet, what the canvas
shows at first and how each frame changes it. Its own state is of any type `α`, and the actions
that get the canvas run on both, together called `Shown`.
-/

namespace Mosaic

/-- The state of a scene and the stage that it is shown on. -/
structure Shown (α : Type) where
  scene : α
  stage : Stage GpuDevice

/-- What a window shows. -/
structure Scene (α : Type) where
  config : α → Config
  /-- Makes the sheet, before the canvas is set up. -/
  sheet : Action α (Except SetupError Sheet)
  /-- Fills the canvas after it was set up. -/
  start : Action (Shown α) Unit
  /-- Passes the nanoseconds since the frame before; `false` asks to quit. -/
  frame : (elapsed : Nat) → Action (Shown α) Bool

namespace Shown

variable {α β : Type}

def onScene (action : Action α β) : Action (Shown α) β :=
  action.part Shown.scene fun scene shown => { shown with scene := scene }

def onStage (action : Action (Stage GpuDevice) β) : Action (Shown α) β :=
  action.part Shown.stage fun stage shown => { shown with stage := stage }

end Shown

end Mosaic
