import Mosaic.Proofs.Canvas.Pictures
import Mosaic.Proofs.Sheet.Names

/-!
# Canvases that are ready for a text

A canvas is `Ready` when it is set up and the names of its sheet lead to sprites of the sheet. Every
tile of its grid can then be asked for, and a text is copied to it without a fault. A text that has
a character for each tile replaces what the tiles show (`tiles_copyAll`).
-/

namespace Mosaic

/-- The place in the storage of the tile of the grid nearest to a point. -/
def Config.nearest (c : Config) (p : Point) : Nat :=
  c.index (Canvas.clampTo c.columns p.x) (Canvas.clampTo c.rows p.y)

namespace Canvas

theorem mem_clampTo {size : Int} (h : 1 ≤ size) (n : Int) :
    0 ≤ clampTo size n ∧ clampTo size n < size := by
  unfold clampTo
  omega

theorem nearest_lt_cells {c : Config} (h : c.Valid) (p : Point) : c.nearest p < c.cells :=
  Config.index_lt_cells (mem_clampTo h.1.1 p.x).1 (mem_clampTo h.1.1 p.x).2
    (mem_clampTo h.2.1.1 p.y).1 (mem_clampTo h.2.1.1 p.y).2

/-- A canvas that is set up with an accepted configuration and on whose sheet names lead to sprites
of the sheet. -/
structure Ready (canvas : Canvas) (c : Config) : Prop where
  active : ∃ a, canvas.active = some a ∧ a.config = c
  valid : c.Valid
  closed : canvas.sheet.Closed

variable {canvas : Canvas} {c : Config}

theorem Ready.bounds (h : canvas.Ready c) : canvas.bounds = .ok ⟨0, 0, c.columns, c.rows⟩ := by
  obtain ⟨a, ha, rfl⟩ := h.active
  exact bounds_of_active ha

theorem Ready.clampX (h : canvas.Ready c) (x : Int) :
    canvas.clampX x = .ok (clampTo c.columns x) := by
  obtain ⟨a, ha, rfl⟩ := h.active
  rw [Canvas.clampX, config_of_active ha]
  rfl

theorem Ready.clampY (h : canvas.Ready c) (y : Int) :
    canvas.clampY y = .ok (clampTo c.rows y) := by
  obtain ⟨a, ha, rfl⟩ := h.active
  rw [Canvas.clampY, config_of_active ha]
  rfl

theorem Ready.tileIndex (h : canvas.Ready c) {x y : Int} (hx : 0 ≤ x) (hx' : x < c.columns)
    (hy : 0 ≤ y) (hy' : y < c.rows) : canvas.tileIndex x y = .ok (c.index x y) := by
  obtain ⟨a, ha, rfl⟩ := h.active
  exact (tileIndex_eq_ok_iff ha).2 ⟨⟨⟨hx, hx'⟩, hy, hy'⟩, rfl⟩

theorem Ready.tile (h : canvas.Ready c) {x y : Int} (hx : 0 ≤ x) (hx' : x < c.columns)
    (hy : 0 ≤ y) (hy' : y < c.rows) : canvas.tile x y = .ok (canvas.stored (c.index x y)) := by
  rw [Canvas.tile, h.tileIndex hx hx' hy hy']
  rfl

theorem Ready.tileIndex_nearest (h : canvas.Ready c) (p : Point) :
    canvas.tileIndex (clampTo c.columns p.x) (clampTo c.rows p.y) = .ok (c.nearest p) :=
  h.tileIndex (mem_clampTo h.valid.1.1 p.x).1 (mem_clampTo h.valid.1.1 p.x).2
    (mem_clampTo h.valid.2.1.1 p.y).1 (mem_clampTo h.valid.2.1.1 p.y).2

theorem Ready.tile_nearest (h : canvas.Ready c) (p : Point) :
    canvas.tile (clampTo c.columns p.x) (clampTo c.rows p.y) =
      .ok (canvas.stored (c.nearest p)) := by
  rw [Canvas.tile, h.tileIndex_nearest p]
  rfl

/-- The points of the grid are its tiles. -/
theorem mem_tiles_iff (h : c.Valid) {p : Point} :
    p ∈ (⟨0, 0, c.columns, c.rows⟩ : Rect) ↔
      (0 ≤ p.x ∧ p.x < c.columns) ∧ 0 ≤ p.y ∧ p.y < c.rows := by
  obtain ⟨⟨hcolumns, hcolumns'⟩, ⟨hrows, hrows'⟩, -⟩ := h
  simp only [Limits.columns, Limits.rows] at hcolumns' hrows'
  simp only [Rect.mem_iff, Rect.right, Rect.bottom, Bounded.clampSigned, Bounded.minSigned,
    Bounded.maxSigned]
  omega

/-- On a sheet on which names lead to sprites, a text is copied to its end. -/
theorem copyAll_result_of_closed (h : canvas.sheet.Closed) (block : Block)
    (text : List (Char × Nat)) : ((copyAll block text).run canvas).result = .ok () :=
  copyAll_result_of_accepts fun entry _ _ => h.checkOption entry.1

/-! ### Whole grids -/

theorem mapM_eq_ok {α β : Type} {question : α → Except Fault β} {answer : α → β} {as : List α}
    (h : ∀ a ∈ as, question a = .ok (answer a)) : as.mapM question = .ok (as.map answer) := by
  induction as with
  | nil => rfl
  | cons a as ih =>
      rw [List.mapM_cons, h a List.mem_cons_self, ih fun b hb => h b (List.mem_cons_of_mem a hb)]
      rfl

theorem map_stored_range {c : Config} (hsize : c.cells ≤ canvas.tiles.size) :
    (List.range c.cells).map canvas.stored = canvas.gridTiles c := by
  refine List.ext_getElem? fun i => ?_
  by_cases hi : i < c.cells
  · rw [List.getElem?_map, List.getElem?_range hi, getElem?_gridTiles hsize hi]
    rfl
  · rw [List.getElem?_eq_none (by simpa using hi),
      List.getElem?_eq_none (by rw [length_gridTiles hsize]; omega)]

/-- The grid of a canvas, asked for row by row, is what is stored in its tiles. -/
theorem Ready.grid (h : canvas.Ready c) (hsize : c.cells ≤ canvas.tiles.size) :
    ∃ lines, canvas.grid = .ok lines ∧ lines.flatten = canvas.gridTiles c := by
  obtain ⟨a, ha, rfl⟩ := h.active
  refine ⟨(List.range a.config.rows.toNat).map fun y => (List.range a.config.columns.toNat).map
    fun x => canvas.stored (y * a.config.columns.toNat + x), ?_, ?_⟩
  · simp only [Canvas.grid, config_of_active ha, bind, Except.bind]
    refine mapM_eq_ok fun y hy => mapM_eq_ok fun x hx => ?_
    rw [List.mem_range] at hx hy
    exact tile_of_mem ha (by omega) (by omega) (by omega) (by omega)
  · rw [← List.flatMap_def]
    rw [← map_stored_range hsize, Config.cells, RowMajor.range_mul, List.map_flatMap]
    simp only [List.map_map]
    rfl

/-- A text of which each character has its own place in the storage is copied as a whole. -/
theorem tiles_copyAll {block : Block} {text : List Char} (h : canvas.sheet.Closed)
    {done old rest : List (Option SpriteId)} (htiles : canvas.tiles.toList = done ++ old ++ rest)
    (hlength : old.length = text.length)
    (hindex : ∀ i, i < done.length + text.length → block.index i = some i) :
    ((copyAll block (text.zipIdx done.length)).run canvas).state.tiles.toList =
      done ++ text.map canvas.sheet.spriteFor ++ rest := by
  induction text generalizing canvas done old with
  | nil =>
      rw [List.length_nil, List.length_eq_zero_iff] at hlength
      rw [hlength] at htiles
      exact htiles
  | cons character text ih =>
      obtain ⟨first, old, rfl⟩ := List.exists_cons_of_length_eq_add_one hlength
      have hcopy := run_copyCharacter_of_place
        (hindex done.length (by rw [List.length_cons]; omega)) (h.checkOption character)
      have hnext : (canvas.put done.length (canvas.sheet.spriteFor character)).tiles.toList =
          done ++ [canvas.sheet.spriteFor character] ++ old ++ rest := by
        rw [put, Array.toList_setIfInBounds, htiles]
        simp
      have hclosed : (canvas.put done.length (canvas.sheet.spriteFor character)).sheet.Closed := h
      have hplaces : ∀ i, i < (done ++ [canvas.sheet.spriteFor character]).length + text.length →
          block.index i = some i := by
        intro i hi
        refine hindex i ?_
        rw [List.length_append, List.length_singleton] at hi
        rw [List.length_cons]
        omega
      have hrest := ih hclosed hnext (by simpa using hlength) hplaces
      rw [List.length_append, List.length_singleton, copyAll] at hrest
      rw [List.zipIdx_cons, copyAll, Action.each_cons, Action.run_bind_of_silent hcopy, hrest]
      simp

end Canvas

end Mosaic
