import Mosaic.Proofs.Sheet.Cells

/-!
# The tiling of an image by cells

The cells of a grid sheet lie side by side. A pixel is covered by the cell in the column and the row
that its coordinates divide to (`Fits.covers_iff`), so no two cells share a pixel and only the
pixels that the right or the bottom edge cuts off are left over. Where two cells meet they have the
same texture coordinate, since both are taken from the same number of pixels.
-/

namespace Mosaic

namespace GridSheet

/-- A pixel lies in a cell. -/
def Cell.Covers (cell : Cell) (x y : Nat) : Prop :=
  (cell.x ≤ x ∧ x < cell.x + cell.width) ∧ cell.y ≤ y ∧ y < cell.y + cell.height

instance (cell : Cell) (x y : Nat) : Decidable (cell.Covers x y) :=
  inferInstanceAs (Decidable (_ ∧ _))

/-- A pixel lies in the cell of a sprite of the sheet. -/
def Covers (g : GridSheet) (id : SpriteId) (x y : Nat) : Prop :=
  g.toSheet.Contains id ∧ ∃ cell, g.cell id = .ok cell ∧ cell.Covers x y

/-- Along one side, a place belongs to the cell that it divides to. -/
theorem mem_cell_iff {side i p : Nat} (h : 0 < side) :
    i * side ≤ p ∧ p < i * side + side ↔ p / side = i := by
  rw [Nat.div_eq_iff h]
  omega

section Places

variable {g : GridSheet} (h : g.Fits) (hwidth : g.image.width < Bounded.Width.bits32.count)
  (hheight : g.image.height < Bounded.Width.bits32.count)
include h hwidth hheight

/-- The cell of a sprite lies within the image. -/
theorem Fits.cell_within {id : SpriteId} (hid : g.toSheet.Contains id) :
    ∃ cell, g.cell id = .ok cell ∧ (cell.width = g.spriteWidth ∧ cell.height = g.spriteHeight) ∧
      cell.x + cell.width ≤ g.image.width ∧ cell.y + cell.height ≤ g.image.height := by
  obtain ⟨hcolumn, hrow⟩ := lt_of_contains hid
  have hcell := h.cell_idAt hwidth hheight hcolumn hrow
  rw [idAt_mod_div] at hcell
  exact ⟨_, hcell, ⟨rfl, rfl⟩, place_add_le h.columns hcolumn, place_add_le h.rows hrow⟩

/-- A pixel is covered by the cell in the column and the row that its coordinates divide to. -/
theorem Fits.covers_iff {id : SpriteId} {x y : Nat} :
    g.Covers id x y ↔
      (x / g.spriteWidth < g.columns ∧ y / g.spriteHeight < g.rows) ∧
        id = g.idAt (x / g.spriteWidth) (y / g.spriteHeight) := by
  constructor
  · rintro ⟨hid, cell, hcell, hx, hy⟩
    obtain ⟨hcolumn, hrow⟩ := lt_of_contains hid
    have hplace := h.cell_idAt hwidth hheight hcolumn hrow
    rw [idAt_mod_div, hcell] at hplace
    cases hplace
    have hx' := (mem_cell_iff h.width_pos).1 hx
    have hy' := (mem_cell_iff h.height_pos).1 hy
    rw [hx', hy', idAt_mod_div]
    exact ⟨⟨hcolumn, hrow⟩, rfl⟩
  · rintro ⟨⟨hcolumn, hrow⟩, rfl⟩
    refine ⟨contains_idAt hcolumn hrow, _, h.cell_idAt hwidth hheight hcolumn hrow, ?_, ?_⟩
    · exact (mem_cell_iff h.width_pos).2 rfl
    · exact (mem_cell_iff h.height_pos).2 rfl

/-- Side by side, two cells have the same texture coordinate where they meet. -/
theorem Fits.u_meets {column row : Nat} (hcolumn : column + 1 < g.columns) (hrow : row < g.rows)
    {left right : UvRect} (hleft : g.uv (g.idAt column row) = .ok left)
    (hright : g.uv (g.idAt (column + 1) row) = .ok right) : left.u1 = right.u0 := by
  rw [h.uv_idAt hwidth hheight (Nat.lt_of_succ_lt hcolumn) hrow] at hleft
  rw [h.uv_idAt hwidth hheight hcolumn hrow] at hright
  cases hleft
  cases hright
  rfl

/-- One below the other, two cells have the same texture coordinate where they meet. -/
theorem Fits.v_meets {column row : Nat} (hcolumn : column < g.columns) (hrow : row + 1 < g.rows)
    {upper lower : UvRect} (hupper : g.uv (g.idAt column row) = .ok upper)
    (hlower : g.uv (g.idAt column (row + 1)) = .ok lower) : upper.v1 = lower.v0 := by
  rw [h.uv_idAt hwidth hheight hcolumn (Nat.lt_of_succ_lt hrow)] at hupper
  rw [h.uv_idAt hwidth hheight hcolumn hrow] at hlower
  cases hupper
  cases hlower
  rfl

end Places

/-- Names change neither the image nor how it is cut. -/
theorem cut_named (g : GridSheet) (namings : List Naming) :
    g.named namings = { g with names := (g.named namings).names } := by
  refine named_keeps (P := fun named => named = { g with names := named.names }) ?_ rfl namings
  intro other named name id hother h
  obtain ⟨-, rfl⟩ := map_eq_ok_iff.1 h
  rw [hother]

/-- Whatever names a sheet was given, its cells tile the image: the cell of each sprite can be had
and lies within the image, two cells share no pixel, and a pixel of one of the columns and rows lies
in exactly one cell, whose number can be computed from the pixel. Cells that meet have the same
texture coordinate where they meet. -/
theorem cells_tile_image {image : Image} {width height : Nat} {g : GridSheet}
    (h : cut image width height = .ok (.ok g)) (hwidth : image.width < Bounded.Width.bits32.count)
    (hheight : image.height < Bounded.Width.bits32.count) (namings : List Naming) :
    let sheet := g.named namings
    sheet.count ≤ maxSprites ∧
      (∀ id, sheet.toSheet.Contains id → ∃ cell uv, sheet.cell id = .ok cell ∧
        sheet.uv id = .ok uv ∧ (cell.width = width ∧ cell.height = height) ∧
        cell.x + cell.width ≤ image.width ∧ cell.y + cell.height ≤ image.height) ∧
      (∀ id other x y, sheet.Covers id x y → sheet.Covers other x y → id = other) ∧
      (∀ x y, x < sheet.columns * width → y < sheet.rows * height → ∀ id,
        sheet.Covers id x y ↔ id = ⟨y / height * sheet.columns + x / width⟩) ∧
      (∀ column row left right, column + 1 < sheet.columns → row < sheet.rows →
        sheet.uv (sheet.idAt column row) = .ok left →
        sheet.uv (sheet.idAt (column + 1) row) = .ok right → left.u1 = right.u0) ∧
      ∀ column row upper lower, column < sheet.columns → row + 1 < sheet.rows →
        sheet.uv (sheet.idAt column row) = .ok upper →
        sheet.uv (sheet.idAt column (row + 1)) = .ok lower → upper.v1 = lower.v0 := by
  intro sheet
  have hbuilt : sheet.Built := built_named (.cut h) namings
  have himage : sheet.image = image := (image_named g namings).trans (fits_of_cut h).2
  have hsides : sheet.spriteWidth = width ∧ sheet.spriteHeight = height := by
    obtain ⟨-, -, rfl⟩ := cut_eq_ok_iff.1 h
    rw [show sheet = _ from cut_named _ namings]
    exact ⟨rfl, rfl⟩
  obtain ⟨rfl, rfl⟩ := hsides
  subst himage
  have hfits := hbuilt.fits
  refine ⟨hbuilt.count_le, ?_, ?_, ?_, ?_, ?_⟩
  · intro id hid
    obtain ⟨cell, hcell, hsize, hwithin⟩ := hfits.cell_within hwidth hheight hid
    obtain ⟨uv, huv⟩ := hfits.exists_uv hwidth hheight hid
    exact ⟨cell, uv, hcell, huv, hsize, hwithin⟩
  · intro id other x y hid hother
    have hid' := (hfits.covers_iff hwidth hheight).1 hid
    have hother' := (hfits.covers_iff hwidth hheight).1 hother
    exact hid'.2.trans hother'.2.symm
  · intro x y hx hy id
    have hcolumn := Nat.div_lt_of_lt_mul (Nat.mul_comm _ _ ▸ hx)
    have hrow := Nat.div_lt_of_lt_mul (Nat.mul_comm _ _ ▸ hy)
    rw [hfits.covers_iff hwidth hheight]
    exact and_iff_right ⟨hcolumn, hrow⟩
  · intro column row left right hcolumn hrow
    exact hfits.u_meets hwidth hheight hcolumn hrow
  · intro column row upper lower hcolumn hrow
    exact hfits.v_meets hwidth hheight hcolumn hrow

/-- An image of which the last column and the last row of pixels belong to no cell. -/
def ragged : Image := ⟨7, 5, Array.replicate 140 0⟩

/-- The sheet of its four cells. -/
def raggedSheet : GridSheet := ⟨ragged, 3, 2, 2, 2, .empty⟩

theorem cells_tile_image_ragged :
    let sheet := raggedSheet.named [.text ['a', 'b'] ⟨2⟩]
    sheet.spriteFor 'b' = some ⟨3⟩ ∧ (∀ id, sheet.Covers id 5 3 ↔ id = ⟨3⟩) ∧
      ∃ cell left right, sheet.cell ⟨3⟩ = .ok cell ∧ cell.x + cell.width ≤ 7 ∧
        sheet.uv ⟨2⟩ = .ok left ∧ sheet.uv ⟨3⟩ = .ok right ∧ left.u1 = right.u0 := by
  intro sheet
  have hcut : cut ragged 3 2 = .ok (.ok raggedSheet) := by rfl
  obtain ⟨-, hcells, -, hcovers, hcolumns, -⟩ :=
    cells_tile_image hcut (by decide) (by decide) [.text ['a', 'b'] ⟨2⟩]
  obtain ⟨-, left, -, hleft, -⟩ := hcells ⟨2⟩ (by decide)
  obtain ⟨cell, right, hcell, hright, -, hwithin, -⟩ := hcells ⟨3⟩ (by decide)
  refine ⟨by decide, hcovers 5 3 (by decide) (by decide), cell, left, right, hcell, hwithin, hleft,
    hright, ?_⟩
  exact hcolumns 0 1 left right (by decide) (by decide) hleft hright

end GridSheet

end Mosaic
