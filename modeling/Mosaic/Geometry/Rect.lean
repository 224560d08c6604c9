import Mosaic.Geometry.Point

/-!
# Rectangles

A `Rect` is given by its top-left corner and its size. Its right and bottom edges, one past the
last column and row, are cut off at the greatest coordinate, so a rectangle covers the points
`x .. right` by `y .. bottom`, right ends excluded. A size that is not positive covers nothing.
`Rect.clip` is the common part of two rectangles.
-/

namespace Mosaic

/-- A block of tiles or pixels. -/
structure Rect where
  x : Int
  y : Int
  width : Int
  height : Int
  deriving DecidableEq, Repr

namespace Rect

/-- The rectangle that stands for all those that cover nothing. -/
def empty : Rect := ⟨0, 0, 0, 0⟩

instance : Inhabited Rect := ⟨empty⟩

/-- All four numbers are signed numbers of 32 bits. -/
def Fits (r : Rect) : Prop :=
  Bounded.FitsSigned r.x ∧ Bounded.FitsSigned r.y ∧
    Bounded.FitsSigned r.width ∧ Bounded.FitsSigned r.height

/-- One past the last column. -/
def right (r : Rect) : Int := Bounded.clampSigned (r.x + r.width)

/-- One past the last row. -/
def bottom (r : Rect) : Int := Bounded.clampSigned (r.y + r.height)

def isEmpty (r : Rect) : Bool := r.width ≤ 0 || r.height ≤ 0

def area (r : Rect) : Nat := if r.isEmpty then 0 else r.width.toNat * r.height.toNat

/-- The points covered. -/
protected def Mem (r : Rect) (p : Point) : Prop :=
  (r.x ≤ p.x ∧ p.x < r.right) ∧ r.y ≤ p.y ∧ p.y < r.bottom

instance : Membership Point Rect := ⟨Rect.Mem⟩

theorem mem_iff {r : Rect} {p : Point} :
    p ∈ r ↔ (r.x ≤ p.x ∧ p.x < r.right) ∧ r.y ≤ p.y ∧ p.y < r.bottom := Iff.rfl

instance (r : Rect) (p : Point) : Decidable (p ∈ r) := decidable_of_iff _ mem_iff.symm

/-- The rectangle from `(x, y)` to the nearer of two right and two bottom edges. -/
def upTo (x y right bottom : Int) : Rect :=
  ⟨x, y, Bounded.clampSigned (right - x), Bounded.clampSigned (bottom - y)⟩

/-- The part of `s` that lies inside `r`; `empty` when there is none. -/
def clip (r s : Rect) : Rect :=
  let common := upTo (max r.x s.x) (max r.y s.y) (min r.right s.right) (min r.bottom s.bottom)
  if common.isEmpty then empty else common

/-- The text of a rectangle, its size first. -/
def text (r : Rect) : String :=
  let ⟨x, y, width, height⟩ := r
  s!"{width}x{height} at ({x}, {y})"

@[simp] theorem isEmpty_empty : empty.isEmpty = true := rfl

@[simp] theorem area_empty : empty.area = 0 := rfl

theorem isEmpty_iff {r : Rect} : r.isEmpty = true ↔ r.width ≤ 0 ∨ r.height ≤ 0 := by
  simp [isEmpty]

theorem not_mem_empty (p : Point) : p ∉ empty := by
  simp only [mem_iff, empty, right, bottom, Bounded.clampSigned, Bounded.minSigned,
    Bounded.maxSigned]
  omega

end Rect

end Mosaic
