import Mosaic.Num.Binary32
import Mosaic.Num.Bounded

/-!
# Viewports

A `Viewport` is the rectangle of a surface that shows a canvas. `Viewport.fit` takes the greatest
whole multiple of the canvas that fits the surface, or, on a surface smaller than the canvas, shrinks
the canvas on both sides alike, and puts it in the middle. The shrunk sides are computed in binary
floating point of 32 bits and cut off to whole pixels.
-/

namespace Mosaic

/-- A rectangle of a surface, in pixels. -/
structure Viewport where
  x : Nat
  y : Nat
  width : Nat
  height : Nat
  deriving DecidableEq, Repr

namespace Viewport

/-- The quotient of two sizes, rounded like the sizes themselves. -/
def quotient (surface canvas : Nat) : Rat :=
  Binary32.round (Binary32.round surface / Binary32.round canvas)

/-- A side of the canvas shrunk by `factor`, in whole pixels and at least one. -/
def shrink (canvas : Nat) (factor : Rat) : Nat :=
  max 1 (Bounded.clamp .bits32 (Binary32.round (Binary32.round canvas * factor)).floor.toNat)

/-- The size at which a canvas is shown, neither side of canvas or surface being empty. -/
def scaledSize (surfaceWidth surfaceHeight canvasWidth canvasHeight : Nat) :
    Except Fault (Nat × Nat) :=
  let scale := min (surfaceWidth / canvasWidth) (surfaceHeight / canvasHeight)
  if 1 ≤ scale then do
    let width ← Bounded.mul .bits32 canvasWidth scale
    let height ← Bounded.mul .bits32 canvasHeight scale
    return (width, height)
  else
    let across := quotient surfaceWidth canvasWidth
    let down := quotient surfaceHeight canvasHeight
    let factor := if across ≤ down then across else down
    .ok (shrink canvasWidth factor, shrink canvasHeight factor)

/-- A rectangle of the given size in the middle of the surface, an odd pixel left over going to the
right or the bottom. A rectangle larger than the surface is refused. -/
def centre (surfaceWidth surfaceHeight width height : Nat) : Except Fault Viewport := do
  let spareWidth ← Bounded.sub surfaceWidth width
  let spareHeight ← Bounded.sub surfaceHeight height
  return ⟨spareWidth / 2, spareHeight / 2, width, height⟩

/-- The rectangle of the surface that shows the canvas; the whole surface when a side of either is
empty. -/
def fit (surfaceWidth surfaceHeight canvasWidth canvasHeight : Nat) : Except Fault Viewport :=
  if canvasWidth = 0 ∨ canvasHeight = 0 ∨ surfaceWidth = 0 ∨ surfaceHeight = 0 then
    .ok ⟨0, 0, surfaceWidth, surfaceHeight⟩
  else do
    let (width, height) ← scaledSize surfaceWidth surfaceHeight canvasWidth canvasHeight
    centre surfaceWidth surfaceHeight width height

end Viewport

end Mosaic
