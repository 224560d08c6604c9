import Mosaic.Device.Handle
import Mosaic.Geometry.Rect

/-!
# Canvas configurations

A `Config` fixes the geometry of a canvas: the tiles of its grid, the pixels of a tile and the
sprite slots. `Config.validate` checks each number against its range. The ranges keep the size of
the canvas in pixels within signed numbers of 32 bits.
-/

namespace Mosaic

namespace Limits

def columns : Nat := 64

def rows : Nat := 64

def slots : Nat := 8

def tiles : Nat := columns * rows

/-- The greatest number of vertices: one quad for each tile and each slot. -/
def vertices : Nat := (tiles + slots) * Quad.size

/-- The greatest width and height of a tile in pixels. -/
def tileSide : Int := Bounded.maxSigned / columns

end Limits

/-- The geometry of a canvas. -/
structure Config where
  columns : Int
  rows : Int
  /-- The width of a tile in pixels. -/
  tileWidth : Int
  /-- The height of a tile in pixels. -/
  tileHeight : Int
  slots : Nat
  deriving DecidableEq, Repr

namespace Config

/-- A grid of 32 by 32 tiles of 8 by 8 pixels with all sprite slots. -/
def standard : Config := ⟨32, 32, 8, 8, Limits.slots⟩

instance : Inhabited Config := ⟨standard⟩

/-- Refuses a value outside its range. -/
def checkField (field : String) (value least greatest : Int) : Except SetupError Unit :=
  if value < least ∨ greatest < value then
    .error (.invalidConfig field value least greatest)
  else .ok ()

/-- Refuses a configuration of which a field lies outside its range, for the first such field. -/
def validate (c : Config) : Except SetupError Unit := do
  checkField "tiles_x" c.columns 1 Limits.columns
  checkField "tiles_y" c.rows 1 Limits.rows
  checkField "tile_width" c.tileWidth 1 Limits.tileSide
  checkField "tile_height" c.tileHeight 1 Limits.tileSide
  checkField "num_sprites" (min (c.slots : Int) Bounded.maxSigned) 0 Limits.slots

/-- Every field lies in its range. -/
def Valid (c : Config) : Prop :=
  (1 ≤ c.columns ∧ c.columns ≤ Limits.columns) ∧ (1 ≤ c.rows ∧ c.rows ≤ Limits.rows) ∧
    (1 ≤ c.tileWidth ∧ c.tileWidth ≤ Limits.tileSide) ∧
    (1 ≤ c.tileHeight ∧ c.tileHeight ≤ Limits.tileSide) ∧ c.slots ≤ Limits.slots

/-- The width of the canvas in pixels. -/
def width (c : Config) : Except Fault Int := Bounded.mulSigned c.columns c.tileWidth

/-- The height of the canvas in pixels. -/
def height (c : Config) : Except Fault Int := Bounded.mulSigned c.rows c.tileHeight

theorem checkField_eq_ok_iff {field : String} {value least greatest : Int} :
    checkField field value least greatest = .ok () ↔ least ≤ value ∧ value ≤ greatest := by
  unfold checkField
  split
  · simp only [reduceCtorEq, false_iff]
    omega
  · simp only [true_iff]
    omega

/-- A configuration is accepted when every field lies in its range. -/
theorem validate_eq_ok_iff {c : Config} : c.validate = .ok () ↔ c.Valid := by
  have step {e : Except SetupError Unit} {next : Unit → Except SetupError Unit} :
      (e >>= next) = .ok () ↔ e = .ok () ∧ next () = .ok () := by
    cases e <;> simp [bind, Except.bind]
  simp only [validate, step, checkField_eq_ok_iff, Valid]
  have slots : (0 : Int) ≤ min (c.slots : Int) Bounded.maxSigned ∧
      min (c.slots : Int) Bounded.maxSigned ≤ (Limits.slots : Nat) ↔
      c.slots ≤ Limits.slots := by
    simp only [Bounded.maxSigned, Limits.slots]
    omega
  rw [slots]

/-- The width in pixels of an accepted configuration is within range. -/
theorem width_of_valid {c : Config} (h : c.Valid) :
    c.width = .ok (c.columns * c.tileWidth) := by
  obtain ⟨⟨columns, columns'⟩, -, ⟨tileWidth, tileWidth'⟩, -, -⟩ := h
  apply Bounded.signed_of_fits
  simp only [Bounded.FitsSigned, Bounded.minSigned, Bounded.maxSigned, Limits.columns,
    Limits.tileSide] at *
  have least : 0 ≤ c.columns * c.tileWidth := Int.mul_nonneg (by omega) (by omega)
  have greatest : c.columns * c.tileWidth ≤ 64 * 33554431 :=
    Int.mul_le_mul (by omega) (by omega) (by omega) (by omega)
  omega

/-- The height in pixels of an accepted configuration is within range. -/
theorem height_of_valid {c : Config} (h : c.Valid) :
    c.height = .ok (c.rows * c.tileHeight) := by
  obtain ⟨-, ⟨rows, rows'⟩, -, ⟨tileHeight, tileHeight'⟩, -⟩ := h
  apply Bounded.signed_of_fits
  simp only [Bounded.FitsSigned, Bounded.minSigned, Bounded.maxSigned, Limits.rows,
    Limits.columns, Limits.tileSide] at *
  have least : 0 ≤ c.rows * c.tileHeight := Int.mul_nonneg (by omega) (by omega)
  have greatest : c.rows * c.tileHeight ≤ 64 * 33554431 :=
    Int.mul_le_mul (by omega) (by omega) (by omega) (by omega)
  omega

end Config

end Mosaic
