import Mathlib.Algebra.GroupWithZero.Nat
import Mosaic.Proofs.Stage.Layout

/-!
# Seams between tiles

Among the vertices of a canvas, those of a tile stand behind the vertices of all tiles before it
that show a sprite, row by row (`shownBefore`). They make up the quad of the pixels of the tile
(`extent_of_drawsTile`). The right edge of a tile is the sum of its left edge and its width and the
left edge of the next tile a product, but both are the same whole number before they are rounded, so
the two quads meet without a seam however large the tiles are.
-/

namespace Mosaic

theorem Quad.corners_injective : Function.Injective Quad.corners := by
  rintro ⟨⟨x0, y0, x1, y1⟩, ⟨u0, v0, u1, v1⟩⟩ ⟨⟨x0', y0', x1', y1'⟩, ⟨u0', v0', u1', v1'⟩⟩ h
  simp only [corners, List.cons.injEq, Vertex.mk.injEq] at h
  obtain ⟨⟨rfl, rfl, rfl, rfl⟩, -, ⟨rfl, rfl, rfl, rfl⟩, -⟩ := h
  rfl

/-- The vertices of a quad stand behind those of the quads before it. -/
theorem Quad.take_drop_flatMap_corners (before : List Quad) (q : Quad) (rest : List Quad) :
    (((before ++ q :: rest).flatMap corners).drop (size * before.length)).take size =
      q.corners := by
  rw [List.flatMap_append, ← length_flatMap_corners, List.drop_left, List.flatMap_cons,
    ← length_corners q]
  exact List.take_left

namespace Canvas

/-! ### The place of a tile among the vertices -/

/-- The number of tiles before `(x, y)`, row by row, that show a sprite. -/
def shownBefore (canvas : Canvas) (c : Config) (x y : Nat) : Nat :=
  ((List.range y).map fun (row : Nat) =>
      (List.range c.columns.toNat).countP fun (column : Nat) =>
        (canvas.tile? column row).isSome).sum +
    (List.range x).countP fun (column : Nat) => (canvas.tile? column y).isSome

/-- The first tiles of a row that show a sprite. -/
def rowPictures (canvas : Canvas) (c : Config) (y n : Nat) : List Sprite :=
  (List.range n).filterMap fun (x : Nat) => (canvas.tile? x y).map fun id => ⟨id, c.tileRect x y⟩

theorem length_rowPictures (canvas : Canvas) (c : Config) (y n : Nat) :
    (canvas.rowPictures c y n).length =
      (List.range n).countP fun (x : Nat) => (canvas.tile? x y).isSome := by
  rw [rowPictures, List.length_filterMap_eq_countP]
  simp only [Option.isSome_map]

/-- A number below a bound splits the numbers below the bound. -/
theorem range_split {n bound : Nat} (h : n < bound) :
    ∃ rest, List.range bound = List.range n ++ n :: rest := by
  obtain ⟨m, rfl⟩ := Nat.exists_eq_add_of_lt h
  rw [Nat.add_assoc, List.range_add, List.range_succ_eq_map, List.map_cons]
  exact ⟨_, rfl⟩

/-- The pictures of the tiles, split at one that shows a sprite. -/
theorem tilePictures_split {canvas : Canvas} {c : Config} {x y : Nat} {id : SpriteId}
    (hx : x < c.columns.toNat) (hy : y < c.rows.toNat) (h : canvas.tile? x y = some id) :
    ∃ before rest, canvas.tilePictures c = before ++ ⟨id, c.tileRect x y⟩ :: rest ∧
      before.length = canvas.shownBefore c x y := by
  obtain ⟨rows, hrows⟩ := range_split hy
  obtain ⟨columns, hcolumns⟩ := range_split hx
  have hrow : canvas.rowPictures c y c.columns.toNat = canvas.rowPictures c y x ++
      ⟨id, c.tileRect x y⟩ :: columns.filterMap fun (x : Nat) =>
        (canvas.tile? x y).map fun id => ⟨id, c.tileRect x y⟩ := by
    rw [rowPictures, hcolumns, List.filterMap_append, List.filterMap_cons, h]
    rfl
  have hpictures : canvas.tilePictures c =
      (List.range c.rows.toNat).flatMap fun y => canvas.rowPictures c y c.columns.toNat := rfl
  rw [hpictures, hrows, List.flatMap_append, List.flatMap_cons, hrow, List.append_assoc,
    ← List.append_assoc, List.cons_append]
  refine ⟨_, _, rfl, ?_⟩
  rw [List.length_append, List.length_flatMap, length_rowPictures, shownBefore]
  simp only [length_rowPictures]

/-- Where no place on the sheet is missing, a picture has its quad behind those of the pictures
before it. -/
theorem quadsOf_split {sheet : Sheet} {width height : Int} {before rest : List Sprite} {s : Sprite}
    (h : (quadsOf sheet width height (before ++ s :: rest)).2 = .ok ()) :
    ∃ uv quads others, sheet.uv s.id = .ok uv ∧ quads.length = before.length ∧
      (quadsOf sheet width height (before ++ s :: rest)).1 =
        quads ++ ⟨Extent.ofPixels width height s.bounds, uv⟩ :: others := by
  induction before with
  | nil =>
      rw [List.nil_append, quadsOf] at h ⊢
      cases huv : sheet.uv s.id with
      | error fault =>
          rw [huv] at h
          cases h
      | ok uv => exact ⟨uv, [], _, rfl, rfl, rfl⟩
  | cons first before ih =>
      rw [List.cons_append, quadsOf] at h ⊢
      cases hfirst : sheet.uv first.id with
      | error fault =>
          rw [hfirst] at h
          cases h
      | ok place =>
          rw [hfirst] at h
          obtain ⟨uv, quads, others, huv, hlength, hquads⟩ := ih h
          refine ⟨uv, ⟨Extent.ofPixels width height first.bounds, place⟩ :: quads, others, huv,
            ?_, ?_⟩
          · rw [List.length_cons, List.length_cons, hlength]
          · rw [hquads]
            rfl

/-! ### The quad of a tile -/

/-- The vertices at the place of a tile are those of a quad that shows the sprite of the tile. -/
structure DrawsTile (canvas : Canvas) (c : Config) (vertices : List Vertex) (x y : Nat)
    (q : Quad) : Prop where
  shown : ∃ id, canvas.tile x y = .ok (some id) ∧ canvas.sheet.uv id = .ok q.uv
  listed : (vertices.drop (Quad.size * canvas.shownBefore c x y)).take Quad.size = q.corners

theorem mem_grid_of_tile {canvas : Canvas} {a : Active} (h : canvas.active = some a) {x y : Nat}
    {sprite : Option SpriteId} (htile : canvas.tile x y = .ok sprite) :
    x < a.config.columns.toNat ∧ y < a.config.rows.toNat := by
  obtain ⟨⟨⟨-, hx⟩, -, hy⟩, -⟩ := (tile_eq_ok_iff h).1 htile
  omega

/-- A tile that shows a sprite has its quad, which covers the pixels of the tile. -/
theorem exists_drawsTile {canvas : Canvas} {a : Active} (h : canvas.active = some a)
    {vertices : List Vertex} (hlayout : canvas.layout a.config = .ok vertices) {x y : Nat}
    {id : SpriteId} (hshown : canvas.tile x y = .ok (some id)) :
    ∃ q, canvas.DrawsTile a.config vertices x y q ∧
      q.extent = Extent.ofPixels (a.config.columns * a.config.tileWidth)
        (a.config.rows * a.config.tileHeight) (a.config.tileRect x y) := by
  obtain ⟨hx, hy⟩ := mem_grid_of_tile h hshown
  have htile : canvas.tile? x y = some id := by
    rw [tile?, hshown]
    rfl
  obtain ⟨before, rest, hsplit, hbefore⟩ := tilePictures_split hx hy htile
  rw [layout_eq_quadsOf, pictures, hsplit, List.append_assoc, List.cons_append] at hlayout
  cases hquads : (quadsOf canvas.sheet (a.config.columns * a.config.tileWidth)
      (a.config.rows * a.config.tileHeight)
      (before ++ ⟨id, a.config.tileRect x y⟩ :: (rest ++ canvas.slotPictures a.config))).2 with
  | error fault =>
      rw [hquads] at hlayout
      cases hlayout
  | ok u =>
      obtain ⟨uv, quads, others, huv, hlength, hlist⟩ := quadsOf_split hquads
      rw [hquads, hlist] at hlayout
      cases hlayout
      refine ⟨⟨_, uv⟩, ⟨⟨id, hshown, huv⟩, ?_⟩, rfl⟩
      rw [← hbefore, ← hlength]
      exact Quad.take_drop_flatMap_corners quads _ others

/-- The quad of a tile covers the pixels of the tile. -/
theorem extent_of_drawsTile {canvas : Canvas} {a : Active} (h : canvas.active = some a)
    {vertices : List Vertex} (hlayout : canvas.layout a.config = .ok vertices) {x y : Nat}
    {q : Quad} (hq : canvas.DrawsTile a.config vertices x y q) :
    q.extent = Extent.ofPixels (a.config.columns * a.config.tileWidth)
      (a.config.rows * a.config.tileHeight) (a.config.tileRect x y) := by
  obtain ⟨id, hshown, -⟩ := hq.shown
  obtain ⟨other, hother, hextent⟩ := exists_drawsTile h hlayout hshown
  rw [Quad.corners_injective (hq.listed.symm.trans hother.listed)]
  exact hextent

/-! ### Tiles side by side -/

/-- The pixels of a tile end where those of the next one in its row begin. -/
theorem ofPixels_tileRect_right (c : Config) (width height : Int) (x y : Nat) :
    (Extent.ofPixels width height (c.tileRect x y)).x1 =
      (Extent.ofPixels width height (c.tileRect (x + 1) y)).x0 := by
  simp only [Extent.ofPixels, Config.tileRect, Int.natCast_add, Int.natCast_one, Int.add_mul,
    Int.one_mul]

/-- The pixels of a tile end where those of the next one in its column begin. -/
theorem ofPixels_tileRect_bottom (c : Config) (width height : Int) (x y : Nat) :
    (Extent.ofPixels width height (c.tileRect x y)).y1 =
      (Extent.ofPixels width height (c.tileRect x (y + 1))).y0 := by
  simp only [Extent.ofPixels, Config.tileRect, Int.natCast_add, Int.natCast_one, Int.add_mul,
    Int.one_mul]

end Canvas

namespace Stage

variable {δ : Type} [Device δ]

/-- In every state of a run in which the canvas is set up, neighbouring tiles meet without a seam.
The vertices can be listed when the sheet knows where its own sprites are, each tile that shows a
sprite has its quad behind those of the tiles before it, the right edge of a tile is bit for bit the
left edge of the next one in its row, and its bottom edge the top edge of the next one in its
column. -/
theorem neighbours_meet (sheet : Sheet) (device : δ) (events : List (Event δ)) (stage : Stage δ)
    (hstage : (fresh sheet device).after events = stage) (a : Active)
    (h : stage.canvas.active = some a) :
    ((∀ id, sheet.Contains id → ∃ uv, sheet.uv id = .ok uv) →
        ∃ vertices, (Command.updateVertices.run.run stage).result = .ok (.vertices vertices)) ∧
      ∀ vertices, (Command.updateVertices.run.run stage).result = .ok (.vertices vertices) →
        (∀ (x y : Nat) id, stage.canvas.tile x y = .ok (some id) →
          ∃ q, stage.canvas.DrawsTile a.config vertices x y q) ∧
        (∀ x y left right, stage.canvas.DrawsTile a.config vertices x y left →
          stage.canvas.DrawsTile a.config vertices (x + 1) y right →
          left.extent.x1 = right.extent.x0 ∧ left.extent.y0 = right.extent.y0 ∧
            left.extent.y1 = right.extent.y1) ∧
        ∀ x y upper lower, stage.canvas.DrawsTile a.config vertices x y upper →
          stage.canvas.DrawsTile a.config vertices x (y + 1) lower →
          upper.extent.y1 = lower.extent.y0 ∧ upper.extent.x0 = lower.extent.x0 ∧
            upper.extent.x1 = lower.extent.x1 := by
  have hsound : stage.canvas.Sound := hstage ▸ sound_after sheet device events
  have hsheet : stage.canvas.sheet = sheet := hstage ▸ sheet_after (fresh sheet device) events
  have hresult := result_updateVertices h hsound
  refine ⟨fun hplaced => ?_, fun vertices hvertices => ?_⟩
  · obtain ⟨vertices, hlayout⟩ := Canvas.exists_layout h hsound (hsheet ▸ hplaced)
    rw [hlayout] at hresult
    exact ⟨vertices, hresult⟩
  · have hlayout := layout_of_listed (hresult.symm.trans hvertices)
    have hextent {x y : Nat} {q : Quad} (hq : stage.canvas.DrawsTile a.config vertices x y q) :=
      Canvas.extent_of_drawsTile h hlayout hq
    refine ⟨fun x y id hid => ?_, fun x y left right hleft hright => ?_,
      fun x y upper lower hupper hlower => ?_⟩
    · obtain ⟨q, hq, -⟩ := Canvas.exists_drawsTile h hlayout hid
      exact ⟨q, hq⟩
    · rw [hextent hleft, hextent hright]
      exact ⟨Canvas.ofPixels_tileRect_right a.config _ _ x y, rfl, rfl⟩
    · rw [hextent hupper, hextent hlower]
      exact ⟨Canvas.ofPixels_tileRect_bottom a.config _ _ x y, rfl, rfl⟩

/-- The geometry of a canvas with the largest tiles, of which no edge but the first is a number that
the format of the vertices holds exactly. -/
def wideConfig : Config := ⟨3, 2, Limits.tileSide, Limits.tileSide, 0⟩

/-- A run that fills a tile, its right neighbour and the tile below it. -/
def wideRun : List (Event Recorder) := [
  .command (.setup wideConfig),
  .command (.setTile (some ⟨0⟩) 1 0),
  .command (.setTile (some ⟨0⟩) 2 0),
  .command (.setTile (some ⟨0⟩) 1 1)]

theorem neighbours_meet_wideRun :
    let stage := (fresh straySheet Recorder.fresh).after wideRun
    stage.canvas.active = some ⟨wideConfig, ⟨⟨1⟩, ⟨2⟩, ⟨3⟩, ⟨4⟩⟩⟩ ∧
      stage.canvas.shownBefore wideConfig 1 1 = 2 ∧
      ∃ vertices left right lower,
        (Command.updateVertices.run.run stage).result = .ok (.vertices vertices) ∧
        (stage.canvas.DrawsTile wideConfig vertices 1 0 left ∧
          stage.canvas.DrawsTile wideConfig vertices 2 0 right ∧
          stage.canvas.DrawsTile wideConfig vertices 1 1 lower) ∧
        left.extent.x1 = right.extent.x0 ∧ left.extent.y1 = lower.extent.y0 := by
  intro stage
  have hactive : stage.canvas.active = some ⟨wideConfig, ⟨⟨1⟩, ⟨2⟩, ⟨3⟩, ⟨4⟩⟩⟩ := by decide +kernel
  obtain ⟨hlisted, hmeet⟩ :=
    neighbours_meet straySheet Recorder.fresh wideRun stage rfl _ hactive
  obtain ⟨vertices, hvertices⟩ := hlisted fun id _ => ⟨default, rfl⟩
  obtain ⟨hdrawn, hacross, hdown⟩ := hmeet vertices hvertices
  obtain ⟨left, hleft⟩ := hdrawn 1 0 ⟨0⟩ (by decide +kernel)
  obtain ⟨right, hright⟩ := hdrawn 2 0 ⟨0⟩ (by decide +kernel)
  obtain ⟨lower, hlower⟩ := hdrawn 1 1 ⟨0⟩ (by decide +kernel)
  refine ⟨hactive, by decide +kernel, vertices, left, right, lower, hvertices,
    ⟨hleft, hright, hlower⟩, ?_, ?_⟩
  · exact (hacross 1 0 left right hleft hright).1
  · exact (hdown 1 0 left lower hleft hlower).1

end Stage

end Mosaic
