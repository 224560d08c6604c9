import Mosaic.Sheet.Basic

/-!
# Vertices

A `Vertex` pairs a place on the canvas with a place on the sheet, both as parts of the whole. A
rectangle is drawn as two triangles, which `Quad.corners` lists.
-/

namespace Mosaic

/-- A place on the canvas paired with a place on the sheet. -/
structure Vertex where
  x : Binary32
  y : Binary32
  u : Binary32
  v : Binary32
  deriving DecidableEq, Repr, Inhabited

/-- The corners of a rectangle on the canvas, as parts of the canvas, top-left first. -/
structure Extent where
  x0 : Binary32
  y0 : Binary32
  x1 : Binary32
  y1 : Binary32
  deriving DecidableEq, Repr, Inhabited

/-- A part of the sheet shown in a part of the canvas. -/
structure Quad where
  extent : Extent
  uv : UvRect
  deriving DecidableEq, Repr, Inhabited

namespace Quad

def size : Nat := 6

/-- The two triangles of a quad: the top-right one and the bottom-left one, both from the top-left
corner clockwise. -/
def corners (q : Quad) : List Vertex :=
  let topLeft : Vertex := ⟨q.extent.x0, q.extent.y0, q.uv.u0, q.uv.v0⟩
  let topRight : Vertex := ⟨q.extent.x1, q.extent.y0, q.uv.u1, q.uv.v0⟩
  let bottomRight : Vertex := ⟨q.extent.x1, q.extent.y1, q.uv.u1, q.uv.v1⟩
  let bottomLeft : Vertex := ⟨q.extent.x0, q.extent.y1, q.uv.u0, q.uv.v1⟩
  [topLeft, topRight, bottomRight, topLeft, bottomRight, bottomLeft]

@[simp] theorem length_corners (q : Quad) : q.corners.length = size := rfl

end Quad

end Mosaic
