import Mosaic.Num.Bounded

/-!
# Points

A `Point` is a place in tiles or in pixels; x grows to the right and y grows down. Addition checks
that both coordinates stay signed numbers of 32 bits, x first.
-/

namespace Mosaic

/-- A place in tiles or in pixels. -/
structure Point where
  x : Int
  y : Int
  deriving DecidableEq, Repr

namespace Point

/-- The top-left corner of every grid. -/
def origin : Point := ⟨0, 0⟩

instance : Inhabited Point := ⟨origin⟩

/-- Both coordinates are signed numbers of 32 bits. -/
def Fits (p : Point) : Prop := Bounded.FitsSigned p.x ∧ Bounded.FitsSigned p.y

def add (p q : Point) : Except Fault Point := do
  let x ← Bounded.addSigned p.x q.x
  let y ← Bounded.addSigned p.y q.y
  return ⟨x, y⟩

def text (p : Point) : String :=
  let ⟨x, y⟩ := p
  s!"({x}, {y})"

theorem add_of_fits {p q : Point} (h : Fits ⟨p.x + q.x, p.y + q.y⟩) :
    p.add q = .ok ⟨p.x + q.x, p.y + q.y⟩ := by
  simp only [add, Bounded.addSigned, Bounded.signed_of_fits h.1, Bounded.signed_of_fits h.2]
  rfl

end Point

end Mosaic
