import Mosaic.Proofs.Num.RowMajor
import Mosaic.Proofs.Sheet.Names

/-!
# The cells of a grid sheet

However a grid sheet was named, its cells are those that its image was cut into. They lie within the
image, so the place of a sprite of the sheet can always be had: where the sides of the image are
numbers of 32 bits, none of the sums on the way is larger.
-/

namespace Mosaic

namespace GridSheet

/-- The cells of a sheet are those that its image holds in full. -/
structure Fits (g : GridSheet) : Prop where
  width_pos : 0 < g.spriteWidth
  height_pos : 0 < g.spriteHeight
  columns : g.columns = g.image.width / g.spriteWidth
  rows : g.rows = g.image.height / g.spriteHeight

theorem fits_of_cut {image : Image} {width height : Nat} {g : GridSheet}
    (h : cut image width height = .ok (.ok g)) : g.Fits ∧ g.image = image := by
  obtain ⟨⟨⟨hwidth, -⟩, hheight, -⟩, -, rfl⟩ := cut_eq_ok_iff.1 h
  exact ⟨⟨hwidth, hheight, rfl, rfl⟩, rfl⟩

theorem Built.fits {g : GridSheet} (h : g.Built) : g.Fits := by
  induction h with
  | cut h => exact (fits_of_cut h).1
  | map hg h ih =>
      obtain ⟨-, rfl⟩ := map_eq_ok_iff.1 h
      exact { ih with }

/-- A sheet has at most as many sprites as there are numbers of 16 bits. -/
theorem Built.count_le {g : GridSheet} (h : g.Built) : g.count ≤ maxSprites := by
  induction h with
  | cut h =>
      obtain ⟨-, hcells, rfl⟩ := cut_eq_ok_iff.1 h
      exact hcells
  | map hg h ih =>
      obtain ⟨-, rfl⟩ := map_eq_ok_iff.1 h
      exact ih

/-! ### Columns and rows -/

/-- The sprite in a column and a row. -/
def idAt (g : GridSheet) (column row : Nat) : SpriteId := ⟨row * g.columns + column⟩

theorem idAt_mod_div (g : GridSheet) (id : SpriteId) :
    g.idAt (id.index % g.columns) (id.index / g.columns) = id :=
  congrArg SpriteId.mk (Nat.div_add_mod' id.index g.columns)

theorem contains_idAt {g : GridSheet} {column row : Nat} (hcolumn : column < g.columns)
    (hrow : row < g.rows) : g.toSheet.Contains (g.idAt column row) :=
  RowMajor.number_lt hcolumn hrow

/-- A sprite is on the sheet when its column and its row are. -/
theorem lt_of_contains {g : GridSheet} {id : SpriteId} (h : g.toSheet.Contains id) :
    id.index % g.columns < g.columns ∧ id.index / g.columns < g.rows := by
  have hcount : id.index < g.columns * g.rows := h
  have hcolumns : 0 < g.columns := Nat.pos_of_mul_pos_right (Nat.zero_lt_of_lt hcount)
  exact ⟨Nat.mod_lt id.index hcolumns, Nat.div_lt_of_lt_mul hcount⟩

theorem index_idAt_mod {g : GridSheet} {column : Nat} (hcolumn : column < g.columns) (row : Nat) :
    (g.idAt column row).index % g.columns = column :=
  Nat.mul_add_mod_of_lt hcolumn

theorem index_idAt_div {g : GridSheet} {column : Nat} (hcolumn : column < g.columns) (row : Nat) :
    (g.idAt column row).index / g.columns = row :=
  RowMajor.number_div hcolumn

/-- Along one side, the cells of a sheet end within the image. -/
theorem place_add_le {side cell count i : Nat} (hcount : count = side / cell) (hi : i < count) :
    i * cell + cell ≤ side := by
  calc i * cell + cell = (i + 1) * cell := (Nat.succ_mul i cell).symm
    _ ≤ side / cell * cell := Nat.mul_le_mul_right cell (hcount ▸ hi)
    _ ≤ side := Nat.div_mul_le_self side cell

section Places

variable {g : GridSheet} (h : g.Fits) (hwidth : g.image.width < Bounded.Width.bits32.count)
  (hheight : g.image.height < Bounded.Width.bits32.count)
include h hwidth hheight

/-- The cell in a column and a row is that many cells away from the left and the top edge. -/
theorem Fits.cell_idAt {column row : Nat} (hcolumn : column < g.columns) (hrow : row < g.rows) :
    g.cell (g.idAt column row) =
      .ok ⟨column * g.spriteWidth, row * g.spriteHeight, g.spriteWidth, g.spriteHeight⟩ := by
  have hright := place_add_le h.columns hcolumn
  have hbottom := place_add_le h.rows hrow
  have hx : Bounded.mul .bits32 column g.spriteWidth = .ok _ := Bounded.unsigned_of_lt (by omega)
  have hy : Bounded.mul .bits32 row g.spriteHeight = .ok _ := Bounded.unsigned_of_lt (by omega)
  rw [cell, index_idAt_mod hcolumn, index_idAt_div hcolumn, hx, hy]
  rfl

/-- The edges of a cell on the texture are those of its columns and rows of pixels. -/
theorem Fits.uv_idAt {column row : Nat} (hcolumn : column < g.columns) (hrow : row < g.rows) :
    g.uv (g.idAt column row) = .ok {
      u0 := .ratio (column * g.spriteWidth : Nat) g.image.width
      v0 := .ratio (row * g.spriteHeight : Nat) g.image.height
      u1 := .ratio ((column + 1) * g.spriteWidth : Nat) g.image.width
      v1 := .ratio ((row + 1) * g.spriteHeight : Nat) g.image.height } := by
  have hright := place_add_le h.columns hcolumn
  have hbottom := place_add_le h.rows hrow
  have hx : Bounded.add .bits32 (column * g.spriteWidth) g.spriteWidth = .ok _ :=
    Bounded.unsigned_of_lt (by omega)
  have hy : Bounded.add .bits32 (row * g.spriteHeight) g.spriteHeight = .ok _ :=
    Bounded.unsigned_of_lt (by omega)
  rw [uv, h.cell_idAt hwidth hheight hcolumn hrow, Nat.succ_mul, Nat.succ_mul]
  simp only [bind, Except.bind, hx, hy]
  rfl

/-- The place of a sprite of the sheet can be had. -/
theorem Fits.exists_uv {id : SpriteId} (hid : g.toSheet.Contains id) :
    ∃ uv, g.uv id = .ok uv := by
  obtain ⟨hcolumn, hrow⟩ := lt_of_contains hid
  have huv := h.uv_idAt hwidth hheight hcolumn hrow
  rw [idAt_mod_div] at huv
  exact ⟨_, huv⟩

end Places

end GridSheet

/-- Every name on the sheet leads to a sprite of the sheet, and the place of every sprite of the
sheet can be had. -/
structure Sheet.Reliable (sheet : Sheet) : Prop where
  closed : sheet.Closed
  placed : ∀ id, sheet.Contains id → ∃ uv, sheet.uv id = .ok uv

/-- A sheet that was cut from an image is reliable, whatever names were asked for. -/
theorem GridSheet.reliable_named {image : Image} {width height : Nat} {g : GridSheet}
    (h : GridSheet.cut image width height = .ok (.ok g))
    (hwidth : image.width < Bounded.Width.bits32.count)
    (hheight : image.height < Bounded.Width.bits32.count) (namings : List Naming) :
    (g.named namings).toSheet.Reliable := by
  have hbuilt := built_named (.cut h) namings
  have himage := (image_named g namings).trans (fits_of_cut h).2
  constructor
  · exact closed_of_built hbuilt
  · intro id hid
    exact hbuilt.fits.exists_uv (himage ▸ hwidth) (himage ▸ hheight) hid

end Mosaic
