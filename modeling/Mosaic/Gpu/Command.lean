import Mosaic.Device.Handle
import Mosaic.Gpu.Viewport
import Mosaic.Num.Binary64

/-!
# Graphics commands

What a graphics processor is told, in order: bytes for a texture or a mesh, and passes. A pass
begins by clearing its target, sets the rectangle to draw into, draws, and ends when it is
submitted. Bytes written before a pass is submitted are what its draws read.
-/

namespace Mosaic

/-- A colour with opacity, each part from zero to one. -/
structure Colour where
  red : Binary64
  green : Binary64
  blue : Binary64
  alpha : Binary64
  deriving DecidableEq, Repr

/-- Opaque black. -/
def Colour.black : Colour := ⟨.zero, .zero, .zero, .one⟩

/-- A draw of a pass: the first vertices of a mesh, placed and coloured by a draw state with a
texture. -/
structure PassDraw where
  drawState : DrawStateId
  texture : TextureId
  mesh : MeshId
  vertices : Nat
  deriving DecidableEq, Repr

/-- What a graphics processor is told. -/
inductive GpuCommand where
  /-- Fills a texture of the given size from rows of the given number of bytes. -/
  | writeTexture (width height rowBytes : Nat) (bytes : Array UInt8)
  /-- Replaces the first bytes of a mesh. -/
  | writeMesh (mesh : MeshId) (bytes : List UInt8)
  /-- Begins a pass, clearing its target. -/
  | beginPass (clear : Colour)
  /-- Draws into a rectangle of the target, and into a range of depths, from here on. -/
  | setViewport (x y width height minDepth maxDepth : Binary32)
  | draw (call : PassDraw)
  /-- Ends the pass and hands it over. -/
  | submit
  deriving DecidableEq, Repr

/-- The command to draw into a viewport, at any depth. -/
def Viewport.command (v : Viewport) : GpuCommand :=
  .setViewport (.ofRat v.x) (.ofRat v.y) (.ofRat v.width) (.ofRat v.height) .zero .one

end Mosaic
