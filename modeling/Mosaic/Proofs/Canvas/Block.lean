import Mathlib.Data.Finset.Prod
import Mathlib.Data.Finset.Range
import Mosaic.Proofs.Canvas.Ready
import Mosaic.Proofs.Geometry.Clip

/-!
# Blocks of tiles

A text is copied to a block of tiles, one character to a tile, row by row. The block may reach
beyond the grid, and its tiles there are left out. Here is what a copy does to each tile of the
grid: a tile of the block shows what its own character stands for, every other tile what it showed
before, and nothing but tiles is changed. On a sheet on which names lead to sprites the copy runs to
its end.
-/

namespace Mosaic

namespace Rect

/-- The rectangle covers `(x, y)`, where its right and bottom edges are not cut off. -/
def Spans (r : Rect) (x y : Int) : Prop :=
  (r.x ≤ x ∧ x < r.x + r.width) ∧ r.y ≤ y ∧ y < r.y + r.height

instance (r : Rect) (x y : Int) : Decidable (r.Spans x y) :=
  inferInstanceAs (Decidable (_ ∧ _))

/-- The number of `(x, y)` among the points of the rectangle, counted row by row. -/
def number (r : Rect) (x y : Int) : Nat := (y - r.y).toNat * r.width.toNat + (x - r.x).toNat

theorem number_lt {r : Rect} {x y : Int} (h : r.Spans x y) :
    r.number x y < r.width.toNat * r.height.toNat := by
  obtain ⟨⟨hx, hx'⟩, hy, hy'⟩ := h
  exact RowMajor.number_lt (by omega) (by omega)

/-- A point is found again from its number. -/
theorem number_eq_iff {r : Rect} {x y : Int} (h : r.Spans x y) {i : Nat} :
    i = r.number x y ↔
      x = r.x + (i % r.width.toNat : Nat) ∧ y = r.y + (i / r.width.toNat : Nat) := by
  obtain ⟨⟨hx, hx'⟩, hy, hy'⟩ := h
  have hcolumn : (x - r.x).toNat < r.width.toNat := by omega
  constructor
  · rintro rfl
    have hmod : r.number x y % r.width.toNat = (x - r.x).toNat := Nat.mul_add_mod_of_lt hcolumn
    have hdiv : r.number x y / r.width.toNat = (y - r.y).toNat := RowMajor.number_div hcolumn
    rw [hmod, hdiv]
    omega
  · rintro ⟨hmod, hdiv⟩
    have hsplit := Nat.div_add_mod' i r.width.toNat
    have hmod' : (x - r.x).toNat = i % r.width.toNat := by omega
    have hdiv' : (y - r.y).toNat = i / r.width.toNat := by omega
    rw [number, hmod', hdiv', hsplit]

/-- The character of a text that goes to `(x, y)` when the text is written row by row. -/
def letter (r : Rect) (text : List Char) (x y : Int) : Option Char :=
  if r.Spans x y then text[r.number x y]? else none

end Rect

namespace Config

/-- The numbers from zero up to `size`, the right end excluded. -/
def side (size : Int) : Finset Int := (Finset.range size.toNat).image fun (n : Nat) => (n : Int)

@[simp] theorem mem_side {size x : Int} : x ∈ side size ↔ 0 ≤ x ∧ x < size := by
  simp only [side, Finset.mem_image, Finset.mem_range]
  constructor
  · rintro ⟨n, hn, rfl⟩
    omega
  · rintro ⟨hx, hx'⟩
    exact ⟨x.toNat, by omega, Int.toNat_of_nonneg hx⟩

/-- The coordinates of the tiles. -/
def grid (c : Config) : Finset (Int × Int) := side c.columns ×ˢ side c.rows

@[simp] theorem mem_grid {c : Config} {x y : Int} :
    (x, y) ∈ c.grid ↔ (0 ≤ x ∧ x < c.columns) ∧ 0 ≤ y ∧ y < c.rows := by
  rw [grid, Finset.mem_product, mem_side, mem_side]

theorem index_lt_of_mem_grid {c : Config} {x y : Int} (h : (x, y) ∈ c.grid) :
    c.index x y < c.cells := by
  obtain ⟨⟨hx, hx'⟩, hy, hy'⟩ := mem_grid.1 h
  exact index_lt_cells hx hx' hy hy'

/-- The whole canvas as a rectangle of tiles. -/
def tiles (c : Config) : Rect := ⟨0, 0, c.columns, c.rows⟩

theorem index_eq_number (c : Config) (x y : Int) : c.index x y = c.tiles.number x y := by
  simp [index, tiles, Rect.number]

theorem spans_of_mem_grid {c : Config} {x y : Int} (h : (x, y) ∈ c.grid) : c.tiles.Spans x y := by
  simpa [Rect.Spans, tiles] using mem_grid.1 h

/-- Each tile of the grid has a place of its own in the storage. -/
theorem index_inj {c : Config} {x y x' y' : Int} (h : (x, y) ∈ c.grid) (h' : (x', y') ∈ c.grid) :
    c.index x y = c.index x' y' ↔ x = x' ∧ y = y' := by
  rw [index_eq_number c x' y', Rect.number_eq_iff (spans_of_mem_grid h'), eq_comm (a := x'),
    eq_comm (a := y')]
  have hself := (Rect.number_eq_iff (spans_of_mem_grid h)).1 (index_eq_number c x y)
  rw [← hself.1, ← hself.2]

end Config

namespace Canvas

variable {c : Config} {target : Rect} {canvas : Canvas}

/-! ### The part of a block on the grid -/

theorem fits_tiles (h : c.Valid) : c.tiles.Fits := by
  obtain ⟨hcolumns, hrows, -⟩ := h
  simp only [Limits.columns, Limits.rows] at hcolumns hrows
  simp only [Rect.Fits, Config.tiles, Bounded.FitsSigned, Bounded.minSigned, Bounded.maxSigned]
  omega

/-- A tile of the grid lies in a block that is cut off where it lies in the whole block: the
greatest coordinate is far from the grid. -/
theorem mem_clip_iff (h : c.Valid) {p : Point} :
    p ∈ c.tiles.clip target ↔ (p.x, p.y) ∈ c.grid ∧ target.Spans p.x p.y := by
  rw [Rect.mem_clip (fits_tiles h), Rect.mem_iff (r := target), Config.tiles, mem_tiles_iff h,
    Config.mem_grid]
  refine and_congr_right fun hgrid => ?_
  have hcolumns : c.columns ≤ 64 := h.1.2
  have hrows : c.rows ≤ 64 := h.2.1.2
  simp only [Rect.Spans, Rect.right, Rect.bottom, Bounded.clampSigned, Bounded.minSigned,
    Bounded.maxSigned]
  omega

theorem place_blockAt_eq_iff (h : c.Valid) {i : Nat} {p : Point} :
    (blockAt c target).place i = some p ↔
      ((p.x, p.y) ∈ c.grid ∧ target.Spans p.x p.y) ∧
        p.x = target.x + (i % target.width.toNat : Nat) ∧
        p.y = target.y + (i / target.width.toNat : Nat) := by
  have hplace : (blockAt c target).place i =
      let q : Point := ⟨target.x + (i % target.width.toNat : Nat),
        target.y + (i / target.width.toNat : Nat)⟩
      if Bounded.FitsSigned q.x ∧ Bounded.FitsSigned q.y ∧ q ∈ c.tiles.clip target then some q
      else none := rfl
  rw [hplace]
  dsimp only
  constructor
  · intro hp
    split at hp
    · rename_i hmem
      cases hp
      exact ⟨(mem_clip_iff h).1 hmem.2.2, rfl, rfl⟩
    · cases hp
  · rcases p with ⟨x, y⟩
    rintro ⟨hmem, rfl, rfl⟩
    -- coordinates on the grid are far from the ends of the signed numbers
    have hsides := Config.mem_grid.1 hmem.1
    have hcolumns : c.columns ≤ 64 := h.1.2
    have hrows : c.rows ≤ 64 := h.2.1.2
    have hfits : ∀ n : Int, 0 ≤ n → n < 64 → Bounded.FitsSigned n := by
      intro n hn hn'
      simp only [Bounded.FitsSigned, Bounded.minSigned, Bounded.maxSigned]
      omega
    have hx := hfits _ hsides.1.1 (Int.lt_of_lt_of_le hsides.1.2 hcolumns)
    have hy := hfits _ hsides.2.1 (Int.lt_of_lt_of_le hsides.2.2 hrows)
    rw [if_pos ⟨hx, hy, (mem_clip_iff h).2 hmem⟩]

/-- The character that goes to a tile of the grid is the one with the tile's number in the block. -/
theorem index_blockAt_eq_iff (h : c.Valid) {x y : Int} (hgrid : (x, y) ∈ c.grid) {i : Nat} :
    (blockAt c target).index i = some (c.index x y) ↔
      target.Spans x y ∧ i = target.number x y := by
  rw [Block.index, Option.map_eq_some_iff]
  constructor
  · rintro ⟨⟨px, py⟩, hp, hindex⟩
    obtain ⟨⟨hmem, hspans⟩, hnumber⟩ := (place_blockAt_eq_iff h).1 hp
    obtain ⟨rfl, rfl⟩ := (Config.index_inj hmem hgrid).1 hindex
    exact ⟨hspans, (Rect.number_eq_iff hspans).2 hnumber⟩
  · rintro ⟨hspans, hnumber⟩
    have hp := (place_blockAt_eq_iff (p := ⟨x, y⟩) h).2
      ⟨⟨hgrid, hspans⟩, (Rect.number_eq_iff hspans).1 hnumber⟩
    exact ⟨⟨x, y⟩, hp, rfl⟩

/-! ### Copying -/

/-- Only tiles differ, and their storage has the same size. -/
def KeepsButTiles (before after : Canvas) : Prop :=
  ∃ tiles, tiles.size = before.tiles.size ∧ after = { before with tiles := tiles }

theorem keepsButTiles_put (canvas : Canvas) (i : Nat) (sprite : Option SpriteId) :
    canvas.KeepsButTiles (canvas.put i sprite) :=
  ⟨_, Array.size_setIfInBounds, rfl⟩

instance : IsPreorder Canvas KeepsButTiles where
  refl canvas := ⟨canvas.tiles, rfl, rfl⟩
  trans a b c := by
    rintro ⟨tiles, hsize, rfl⟩ ⟨tiles', hsize', rfl⟩
    exact ⟨tiles', hsize'.trans hsize, rfl⟩

theorem follows_keepsButTiles_copyCharacter (block : Block) (character : Char) (i : Nat) :
    Action.Follows KeepsButTiles (copyCharacter block character i) := by
  intro s
  obtain ⟨-, hrun⟩ | ⟨fault, hrun⟩ | ⟨j, -, -, hrun⟩ := run_copyCharacter_cases block character i s
  · rw [hrun]
    exact refl_of KeepsButTiles s
  · rw [hrun]
    exact refl_of KeepsButTiles s
  · rw [hrun]
    exact keepsButTiles_put s j _

theorem follows_keepsButTiles_copyAll (block : Block) (text : List (Char × Nat)) :
    Action.Follows KeepsButTiles (copyAll block text) :=
  Action.follows_each fun entry _ => follows_keepsButTiles_copyCharacter block entry.1 entry.2

/-- A character that is accepted is copied, if it has a place. -/
theorem run_copyCharacter_of_accepted {block : Block} {character : Char} {i : Nat}
    (h : (block.index i).isSome →
      canvas.sheet.checkOption (canvas.sheet.spriteFor character) = .ok ()) :
    ∃ s, (copyCharacter block character i).run canvas = ⟨.ok (), s, []⟩ ∧
      canvas.KeepsButTiles s := by
  cases hi : block.index i with
  | none => exact ⟨canvas, run_copyCharacter_of_none hi character canvas, refl_of _ canvas⟩
  | some j =>
      exact ⟨_, run_copyCharacter_of_place hi (h (by rw [hi]; rfl)),
        keepsButTiles_put canvas j _⟩

/-- A cell to which no character goes stays as it is. -/
theorem stored_copyAll_of_forall_ne {block : Block} {text : List (Char × Nat)} {j : Nat}
    (hj : ∀ entry ∈ text, block.index entry.2 ≠ some j) :
    ((copyAll block text).run canvas).state.stored j = canvas.stored j := by
  refine Action.each_keeps (P := fun s : Canvas => s.stored j = canvas.stored j) ?_ rfl
  rintro ⟨character, i⟩ hentry s hs
  obtain ⟨-, hrun⟩ | ⟨fault, hrun⟩ | ⟨k, hk, -, hrun⟩ := run_copyCharacter_cases block character i s
  · rw [hrun]
    exact hs
  · rw [hrun]
    exact hs
  · have hne : k ≠ j := fun hkj => hj (character, i) hentry (hkj ▸ hk)
    rw [hrun, stored_put_of_ne hne]
    exact hs

/-- A cell to which one character goes shows what that character stands for. -/
theorem stored_copyAll_of_index {block : Block} {text : List Char} {n k j : Nat}
    (haccepts : block.Accepts canvas.sheet (text.zipIdx n)) (hj : j < canvas.tiles.size)
    (hindex : ∀ i, block.index i = some j ↔ i = n + k) {character : Char}
    (hcharacter : text[k]? = some character) :
    ((copyAll block (text.zipIdx n)).run canvas).state.stored j =
      canvas.sheet.spriteFor character := by
  induction text generalizing canvas n k with
  | nil => simp at hcharacter
  | cons first text ih =>
      rw [List.zipIdx_cons] at haccepts
      rw [List.zipIdx_cons, copyAll, Action.each_cons]
      have hfirst := haccepts (first, n) List.mem_cons_self
      cases k with
      | zero =>
          have hplace : block.index n = some j := (hindex n).2 rfl
          have hput := run_copyCharacter_of_place hplace (hfirst (by rw [hplace]; rfl))
          have hrest : ∀ entry ∈ text.zipIdx (n + 1), block.index entry.2 ≠ some j := by
            rintro ⟨other, i⟩ hentry hi
            have hle := (List.mem_zipIdx hentry).1
            have hn := (hindex i).1 hi
            omega
          rw [Action.run_bind_of_silent hput]
          refine (stored_copyAll_of_forall_ne hrest).trans ?_
          rw [stored_put_self hj]
          simpa using congrArg (Option.map canvas.sheet.spriteFor) hcharacter
      | succ k =>
          have hindex' : ∀ i, block.index i = some j ↔ i = n + 1 + k := by
            intro i
            rw [hindex i, Nat.add_assoc, Nat.add_comm 1]
          obtain ⟨_, hrun, tiles, hsize, rfl⟩ := run_copyCharacter_of_accepted hfirst
          rw [Action.run_bind_of_silent hrun]
          have hj' : j < ({ canvas with tiles := tiles } : Canvas).tiles.size := hsize ▸ hj
          have haccepts' : block.Accepts ({ canvas with tiles := tiles } : Canvas).sheet
              (text.zipIdx (n + 1)) := fun entry hentry =>
            haccepts entry (List.mem_cons_of_mem _ hentry)
          exact ih haccepts' hj' hindex' (by simpa using hcharacter)

/-- After a copy, a tile of the grid shows what its own character stands for, or what it showed
before if there is no such character. -/
theorem stored_copyAll (h : c.Valid) (hcells : c.cells ≤ canvas.tiles.size) {text : List Char}
    (haccepts : (blockAt c target).Accepts canvas.sheet text.zipIdx) {x y : Int}
    (hgrid : (x, y) ∈ c.grid) :
    ((copyAll (blockAt c target) text.zipIdx).run canvas).state.stored (c.index x y) =
      ((target.letter text x y).map canvas.sheet.spriteFor).getD
        (canvas.stored (c.index x y)) := by
  cases hletter : target.letter text x y with
  | none =>
      refine stored_copyAll_of_forall_ne ?_
      rintro ⟨character, i⟩ hentry hi
      obtain ⟨hspans, rfl⟩ := (index_blockAt_eq_iff h hgrid).1 hi
      rw [Rect.letter, if_pos hspans, List.getElem?_eq_none_iff] at hletter
      have hlt := (List.mem_zipIdx hentry).2.1
      omega
  | some character =>
      have hspans : target.Spans x y := by
        by_contra hspans
        rw [Rect.letter, if_neg hspans] at hletter
        cases hletter
      rw [Rect.letter, if_pos hspans] at hletter
      have hplace : c.index x y < canvas.tiles.size :=
        Nat.lt_of_lt_of_le (Config.index_lt_of_mem_grid hgrid) hcells
      have hindex : ∀ i, (blockAt c target).index i = some (c.index x y) ↔
          i = 0 + target.number x y := by
        intro i
        rw [index_blockAt_eq_iff h hgrid, Nat.zero_add]
        simp [hspans]
      exact stored_copyAll_of_index haccepts hplace hindex hletter

/-- On a sheet on which names lead to sprites, a text of the right length is copied to its end. A
tile of the block then shows what its character stands for, and the other tiles stay as they are. -/
theorem run_copyText_of_closed {a : Active} {text : List Char} (h : canvas.active = some a)
    (hsound : canvas.Sound) (hclosed : canvas.sheet.Closed)
    (hsize : 0 ≤ target.width ∧ 0 ≤ target.height)
    (hlength : text.length = target.width.toNat * target.height.toNat) :
    ∃ s notes, (copyText target text).run canvas = ⟨.ok (), s, notes⟩ ∧ canvas.KeepsButTiles s ∧
      ∀ x y, (x, y) ∈ a.config.grid → s.stored (a.config.index x y) =
        if target.Spans x y then ((text[target.number x y]?).map canvas.sheet.spriteFor).join
        else canvas.stored (a.config.index x y) := by
  obtain ⟨notes, hrun⟩ := run_copyText_of_length h hsize hlength
  rw [copyAll_result_of_closed hclosed] at hrun
  refine ⟨_, notes, hrun, follows_keepsButTiles_copyAll _ _ canvas, ?_⟩
  intro x y hgrid
  rw [stored_copyAll (hsound.fits a h).valid (hsound.cells_le_size h)
    (fun entry _ _ => hclosed.checkOption entry.1) hgrid, Rect.letter]
  split
  · rename_i hspans
    have hnumber : target.number x y < text.length := hlength ▸ Rect.number_lt hspans
    simp [hnumber]
  · rfl

end Canvas

end Mosaic
