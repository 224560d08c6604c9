import Mosaic.Error

/-!
# Images

An `Image` holds the pixels of a sheet row by row, four bytes each: red, green, blue and opacity.
`Image.ofBytes` takes the bytes as they are and checks their number, `Image.generate` asks a
stateful painter for one pixel after the other, and `Image.pixel` reads one pixel back.
-/

namespace Mosaic

/-- The four bytes of a pixel. -/
structure Pixel where
  red : UInt8
  green : UInt8
  blue : UInt8
  alpha : UInt8
  deriving DecidableEq, Repr, Inhabited

namespace Pixel

/-- The pixel that shows what lies behind it. -/
def transparent : Pixel := ⟨0, 0, 0, 0⟩

/-- The bytes of a pixel in the order in which they are stored. -/
def toList (p : Pixel) : List UInt8 := [p.red, p.green, p.blue, p.alpha]

end Pixel

/-- The pixels of a sheet, row by row. -/
structure Image where
  width : Nat
  height : Nat
  bytes : Array UInt8
  deriving DecidableEq, Repr

namespace Image

/-- An image of the given bytes. Neither side may be empty, and there must be four bytes for each
pixel. -/
def ofBytes (width height : Nat) (bytes : Array UInt8) : Except Fault (Except SetupError Image) :=
  if width = 0 ∨ height = 0 then .ok (.error (.invalidImage width height bytes.size))
  else do
    let pixels ← Bounded.mul .bits64 width height
    let needed ← Bounded.mul .bits64 pixels 4
    if bytes.size = needed then return .ok ⟨width, height, bytes⟩
    else return .error (.invalidImage width height bytes.size)

/-- A painter is asked for the pixel at `(x, y)` and may remember what it was asked before. -/
abbrev Painter (σ : Type) := Nat → Nat → StateM σ Pixel

/-- The bytes of `left` more pixels, row by row, from pixel number `next` on. -/
def paintFrom {σ : Type} (painter : Painter σ) (width : Nat) :
    (left next : Nat) → Array UInt8 → σ → Array UInt8 × σ
  | 0, _, bytes, s => (bytes, s)
  | left + 1, next, bytes, s =>
    let (p, s) := painter (next % width) (next / width) s
    paintFrom painter width left (next + 1)
      ((((bytes.push p.red).push p.green).push p.blue).push p.alpha) s

/-- An image painted pixel by pixel, row by row from the top and from left to right, and the
painter's state after the last pixel. The number of bytes has to fit 64 bits and to be
addressable. -/
def generate {σ : Type} (width height : Nat) (painter : Painter σ) (s : σ) :
    Except Fault (Image × σ) := do
  let pixels ← Bounded.mul .bits64 width height
  let needed ← Bounded.mul .bits64 pixels 4
  let _ ← Bounded.reserve needed 1
  let (bytes, s) := paintFrom painter width pixels 0 #[] s
  return (⟨width, height, bytes⟩, s)

/-- An image whose pixels depend on their place alone. -/
def paint (width height : Nat) (colour : Nat → Nat → Pixel) : Except Fault Image := do
  let (image, _) ← generate width height (fun x y => (pure (colour x y) : StateM Unit Pixel)) ()
  return image

/-- The pixel stored from byte `i` on. -/
def pixelAt (image : Image) (i : Nat) : Option Pixel := do
  let red ← image.bytes[i]?
  let green ← image.bytes[i + 1]?
  let blue ← image.bytes[i + 2]?
  let alpha ← image.bytes[i + 3]?
  return ⟨red, green, blue, alpha⟩

/-- The pixel at `(x, y)`, or nothing outside the image. The place of its first byte has to fit 32
bits. -/
def pixel (image : Image) (x y : Nat) : Except Fault (Option Pixel) :=
  if image.width ≤ x ∨ image.height ≤ y then .ok none
  else do
    let before ← Bounded.mul .bits32 y image.width
    let place ← Bounded.add .bits32 before x
    let first ← Bounded.mul .bits32 place 4
    return image.pixelAt first

end Image

end Mosaic
