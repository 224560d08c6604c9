import Mathlib.Data.List.Basic
import Mosaic.Proofs.Canvas.Sound

/-!
# The pictures of a canvas

Listing the vertices of a canvas goes over two kinds of things, tiles and slots. Both are pictures:
a sprite of the sheet shown in a rectangle of pixels. `pictures` reads them off the questions `tile`
and `sprite` coordinate by coordinate, and `run_updateVertices` says that a run pushes the quads of
exactly these pictures, in this order, up to the first one whose place on the sheet cannot be had.
-/

namespace Mosaic

namespace Config

/-- The pixels of a tile. -/
def tileRect (c : Config) (column row : Nat) : Rect :=
  ⟨column * c.tileWidth, row * c.tileHeight, c.tileWidth, c.tileHeight⟩

end Config

namespace Canvas

/-! ### Pictures -/

/-- The sprite that a tile shows; none outside the grid. -/
def tile? (canvas : Canvas) (x y : Int) : Option SpriteId := (canvas.tile x y).toOption.join

/-- The sprite that a slot shows; none for a slot that the canvas does not have. -/
def sprite? (canvas : Canvas) (slot : Nat) : Option Sprite := (canvas.sprite slot).toOption.join

/-- The tiles that show a sprite, row by row. -/
def tilePictures (canvas : Canvas) (c : Config) : List Sprite :=
  (List.range c.rows.toNat).flatMap fun (y : Nat) =>
    (List.range c.columns.toNat).filterMap fun (x : Nat) =>
      (canvas.tile? x y).map fun id => ⟨id, c.tileRect x y⟩

/-- The slots that show a sprite, in order. -/
def slotPictures (canvas : Canvas) (c : Config) : List Sprite :=
  (List.range c.slots).filterMap canvas.sprite?

def pictures (canvas : Canvas) (c : Config) : List Sprite :=
  canvas.tilePictures c ++ canvas.slotPictures c

theorem tile?_of_lt {canvas : Canvas} {a : Active} (h : canvas.active = some a) {x y : Nat}
    (hx : x < a.config.columns.toNat) (hy : y < a.config.rows.toNat) :
    canvas.tile? x y = canvas.stored (y * a.config.columns.toNat + x) := by
  rw [tile?, tile_of_mem h (by omega) (by omega) (by omega) (by omega)]
  rfl

theorem sprite?_of_lt {canvas : Canvas} {a : Active} (h : canvas.active = some a) {slot : Nat}
    (hslot : slot < a.config.slots) : canvas.sprite? slot = canvas.slotted slot := by
  rw [sprite?, sprite_of_lt h hslot]
  rfl

/-! ### The storage read row by row -/

/-- A list that is gone through with the number of each element is gone through by number. -/
theorem filterMap_zipIdx_take {α β : Type} (f : Nat → α → β) (l : List (Option α)) {n : Nat}
    (hn : n ≤ l.length) :
    ((l.take n).zipIdx.filterMap fun p => p.1.map (f p.2)) =
      (List.range n).filterMap fun i => (l[i]?).join.map (f i) := by
  induction n with
  | zero => simp
  | succ n ih =>
      have hlength : (l.take n).length = n := List.length_take_of_le (by omega)
      have hlast : l[n]? = some l[n] := List.getElem?_eq_getElem (by omega)
      rw [List.take_add_one, List.zipIdx_append, List.filterMap_append, ih (by omega),
        List.range_succ, List.filterMap_append, hlength, hlast]
      simp [List.filterMap_cons, hlast]

theorem shownTiles_eq {canvas : Canvas} {c : Config} (hsize : c.cells ≤ canvas.tiles.size) :
    canvas.shownTiles c = (List.range c.cells).filterMap fun i =>
      (canvas.stored i).map fun id => (i % c.columns.toNat, i / c.columns.toNat, id) := by
  have htake := filterMap_zipIdx_take
    (fun i (id : SpriteId) => (i % c.columns.toNat, i / c.columns.toNat, id))
    canvas.tiles.toList (n := c.cells) (by simpa using hsize)
  simp only [Array.getElem?_toList] at htake
  exact htake

theorem map_shownTiles {canvas : Canvas} {a : Active} (h : canvas.active = some a)
    (hsize : a.config.cells ≤ canvas.tiles.size) :
    ((canvas.shownTiles a.config).map fun t => Sprite.mk t.2.2 (a.config.tileRect t.1 t.2.1)) =
      canvas.tilePictures a.config := by
  rw [shownTiles_eq hsize, Config.cells, RowMajor.range_mul, List.filterMap_flatMap, List.map_flatMap,
    tilePictures]
  refine List.flatMap_congr fun y hy => ?_
  rw [List.filterMap_map, List.map_filterMap]
  refine List.filterMap_congr fun x hx => ?_
  have hx' := List.mem_range.1 hx
  rw [tile?_of_lt h hx' (List.mem_range.1 hy), Function.comp_apply, Nat.mul_add_mod_of_lt hx',
    RowMajor.number_div hx', Option.map_map]
  rfl

theorem shownSprites_eq {canvas : Canvas} {a : Active} (h : canvas.active = some a)
    (hsize : a.config.slots ≤ canvas.slots.size) :
    canvas.shownSprites a.config = canvas.slotPictures a.config := by
  have htake := filterMap_zipIdx_take (fun _ (s : Sprite) => s) canvas.slots.toList
    (n := a.config.slots) (by simpa using hsize)
  have hfst : canvas.slots.toList.take a.config.slots =
      (canvas.slots.toList.take a.config.slots).zipIdx.map Prod.fst :=
    (List.zipIdx_map_fst 0 _).symm
  simp only [Option.map_id_fun', Array.getElem?_toList] at htake
  rw [shownSprites, hfst, List.filterMap_map]
  refine Eq.trans htake (List.filterMap_congr fun i hi => ?_)
  exact (sprite?_of_lt h (List.mem_range.1 hi)).symm

theorem length_tilePictures {canvas : Canvas} {a : Active} (h : canvas.active = some a)
    (hsize : a.config.cells ≤ canvas.tiles.size) :
    (canvas.tilePictures a.config).length =
      (canvas.gridTiles a.config).countP Option.isSome := by
  rw [← map_shownTiles h hsize, List.length_map, shownTiles, List.length_filterMap_eq_countP,
    gridTiles]
  conv_rhs =>
    rw [← List.zipIdx_map_fst 0 (canvas.tiles.toList.take a.config.cells), List.countP_map]
  refine List.countP_congr fun p _ => ?_
  rw [Option.isSome_map]
  rfl

theorem length_slotPictures {canvas : Canvas} {a : Active} (h : canvas.active = some a)
    (hsize : a.config.slots ≤ canvas.slots.size) :
    (canvas.slotPictures a.config).length =
      (canvas.slots.toList.take a.config.slots).countP Option.isSome := by
  rw [← shownSprites_eq h hsize, shownSprites, List.length_filterMap_eq_countP]
  rfl

theorem occupied_eq {canvas : Canvas} {a : Active} (h : canvas.active = some a)
    (hfits : canvas.Fits a.config) (hsize : canvas.tiles.size = Limits.tiles) :
    canvas.occupied = .ok (canvas.tilePictures a.config).length := by
  obtain ⟨⟨hcolumns, hcolumns'⟩, ⟨hrows, hrows'⟩, -⟩ := hfits.valid
  have hcells := Config.cells_le hfits.valid
  have hproduct : a.config.columns * a.config.rows = a.config.cells := by
    rw [Config.cells, Int.natCast_mul, Int.toNat_of_nonneg (by omega),
      Int.toNat_of_nonneg (by omega)]
  have hsigned : Bounded.mulSigned a.config.columns a.config.rows = .ok a.config.cells := by
    rw [Bounded.mulSigned, hproduct]
    apply Bounded.signed_of_fits
    simp only [Bounded.FitsSigned, Bounded.minSigned, Bounded.maxSigned, Limits.tiles,
      Limits.columns, Limits.rows] at hcells ⊢
    omega
  rw [length_tilePictures h (by omega), occupied, config_of_active h]
  simp only [bind, Except.bind, hsigned]
  rfl

theorem activeSprites_eq {canvas : Canvas} {a : Active} (h : canvas.active = some a)
    (hsize : a.config.slots ≤ canvas.slots.size) :
    canvas.activeSprites = .ok (canvas.slotPictures a.config).length := by
  rw [activeSprites, config_of_active h, length_slotPictures h hsize]
  rfl

theorem length_pictures_le {canvas : Canvas} {a : Active} (h : canvas.active = some a)
    (hsound : canvas.Sound) : (canvas.pictures a.config).length ≤ Limits.tiles + Limits.slots := by
  have hcells := Config.cells_le (hsound.fits a h).valid
  have hslots : a.config.slots ≤ Limits.slots := (hsound.fits a h).valid.2.2.2.2
  rw [pictures, List.length_append,
    length_tilePictures h (hsound.cells_le_size h),
    length_slotPictures h (hsound.slots_le_size h)]
  refine Nat.add_le_add ?_ ?_
  · exact Nat.le_trans List.countP_le_length (Nat.le_trans (List.length_take_le _ _) hcells)
  · exact Nat.le_trans List.countP_le_length (Nat.le_trans (List.length_take_le _ _) hslots)

theorem shows_of_mem_pictures {canvas : Canvas} {a : Active} (h : canvas.active = some a)
    {s : Sprite} (hs : s ∈ canvas.pictures a.config) : canvas.Shows s.id := by
  rcases List.mem_append.1 hs with htile | hslot
  · obtain ⟨y, hy, hrow⟩ := List.mem_flatMap.1 htile
    obtain ⟨x, hx, hpicture⟩ := List.mem_filterMap.1 hrow
    rw [tile?_of_lt h (List.mem_range.1 hx) (List.mem_range.1 hy)] at hpicture
    obtain ⟨id, hid, rfl⟩ := Option.map_eq_some_iff.1 hpicture
    exact .inl ⟨_, hid⟩
  · obtain ⟨i, hi, hpicture⟩ := List.mem_filterMap.1 hslot
    rw [sprite?_of_lt h (List.mem_range.1 hi)] at hpicture
    exact .inr ⟨i, s, hpicture, rfl⟩

/-! ### Runs -/

/-- The quads of a list of pictures up to the first one whose place on the sheet cannot be had, and
the fault met there. -/
def quadsOf (sheet : Sheet) (width height : Int) : List Sprite → List Quad × Except Fault Unit
  | [] => ([], .ok ())
  | s :: rest =>
    match sheet.uv s.id with
    | .error fault => ([], .error fault)
    | .ok uv =>
      (⟨Extent.ofPixels width height s.bounds, uv⟩ :: (quadsOf sheet width height rest).1,
        (quadsOf sheet width height rest).2)

/-- Only the places of the sprites that are shown matter. -/
theorem quadsOf_congr (first second : Sheet) (width height : Int) {sprites : List Sprite}
    (h : ∀ s ∈ sprites, first.uv s.id = second.uv s.id) :
    quadsOf first width height sprites = quadsOf second width height sprites := by
  induction sprites with
  | nil => rfl
  | cons s rest ih =>
      rw [quadsOf, quadsOf, h s List.mem_cons_self,
        ih fun other hother => h other (List.mem_cons_of_mem s hother)]

/-- The only faults are those of the places of the sprites that are shown. -/
theorem quadsOf_snd_cases (sheet : Sheet) (width height : Int) (sprites : List Sprite) :
    (quadsOf sheet width height sprites).2 = .ok () ∨
      ∃ s ∈ sprites, ∃ fault, sheet.uv s.id = .error fault ∧
        (quadsOf sheet width height sprites).2 = .error fault := by
  induction sprites with
  | nil => exact .inl rfl
  | cons s rest ih =>
      rw [quadsOf]
      cases huv : sheet.uv s.id with
      | error fault => exact .inr ⟨s, List.mem_cons_self, fault, huv, rfl⟩
      | ok uv =>
          obtain hok | ⟨other, hother, fault, hfault, hrest⟩ := ih
          · exact .inl hok
          · exact .inr ⟨other, List.mem_cons_of_mem s hother, fault, hfault, hrest⟩

theorem run_each_pushSprite (sheet : Sheet) (width height : Int) :
    ∀ (sprites : List Sprite) (arena : Arena),
      arena.length + sprites.length * Quad.size ≤ arena.capacity →
      (Action.each (pushSprite sheet width height) sprites).run arena =
        ⟨(quadsOf sheet width height sprites).2,
          arena.writeAll ((quadsOf sheet width height sprites).1.flatMap Quad.corners), []⟩
  | [], arena, _ => by
      rw [quadsOf, List.flatMap_nil, Arena.writeAll_nil]
      rfl
  | s :: rest, arena, hroom => by
      rw [List.length_cons, Nat.add_mul, Nat.one_mul] at hroom
      rw [Action.each_cons]
      cases huv : sheet.uv s.id with
      | error fault =>
          have hpush : (pushSprite sheet width height s).run arena =
              ⟨.error fault, arena, []⟩ := by
            simp only [pushSprite, Action.run_ofExcept_bind, huv]
          rw [Action.run_bind_of_error hpush]
          simp only [quadsOf, huv, List.flatMap_nil, Arena.writeAll_nil]
      | ok uv =>
          have hpush : (pushSprite sheet width height s).run arena =
              ⟨.ok (), arena.writeAll
                (Quad.mk (Extent.ofPixels width height s.bounds) uv).corners, []⟩ := by
            simp only [pushSprite, Action.run_ofExcept_bind, huv]
            exact Arena.run_push_of_room (by omega) _
          rw [Action.run_bind_of_silent hpush, run_each_pushSprite sheet width height rest]
          · simp only [quadsOf, huv, List.flatMap_cons, Arena.writeAll_append]
          · rw [Arena.length_writeAll, Arena.capacity_writeAll, Quad.length_corners]
            omega

/-- A tile of an accepted configuration starts at a pixel with signed coordinates. -/
theorem fitsSigned_mul {n : Nat} {side : Int} (hn : n ≤ Limits.columns) (hside : 1 ≤ side)
    (hside' : side ≤ Limits.tileSide) : Bounded.FitsSigned (n * side) := by
  have hleast : 0 ≤ (n : Int) * side := Int.mul_nonneg (by omega) (by omega)
  have hgreatest : (n : Int) * side ≤ Limits.columns * Limits.tileSide :=
    Int.mul_le_mul (by omega) hside' (by omega) (by omega)
  simp only [Bounded.FitsSigned, Bounded.minSigned, Bounded.maxSigned, Limits.columns,
    Limits.tileSide] at hgreatest ⊢
  omega

theorem tileBounds_of_lt {c : Config} (h : c.Valid) {column row : Nat}
    (hcolumn : column < c.columns.toNat) (hrow : row < c.rows.toNat) :
    tileBounds c column row = .ok (c.tileRect column row) := by
  obtain ⟨⟨-, hcolumns⟩, ⟨-, hrows⟩, ⟨hwidth, hwidth'⟩, ⟨hheight, hheight'⟩, -⟩ := h
  have hx : Bounded.mulSigned column c.tileWidth = .ok (column * c.tileWidth) :=
    Bounded.signed_of_fits (fitsSigned_mul (by omega) hwidth hwidth')
  have hy : Bounded.mulSigned row c.tileHeight = .ok (row * c.tileHeight) :=
    Bounded.signed_of_fits (fitsSigned_mul (show row ≤ Limits.rows by omega) hheight hheight')
  simp only [tileBounds, hx, hy]
  rfl

theorem each_pushTile {canvas : Canvas} {a : Active} (h : canvas.active = some a)
    (hvalid : a.config.Valid) (hsize : a.config.cells ≤ canvas.tiles.size) (sheet : Sheet)
    (width height : Int) :
    Action.each (pushTile sheet a.config width height) (canvas.shownTiles a.config) =
      Action.each (pushSprite sheet width height) (canvas.tilePictures a.config) := by
  rw [← map_shownTiles h hsize, Action.each_map]
  refine Action.each_congr fun t ht => ?_
  rw [shownTiles_eq hsize] at ht
  obtain ⟨i, hi, hmap⟩ := List.mem_filterMap.1 ht
  obtain ⟨id, -, rfl⟩ := Option.map_eq_some_iff.1 hmap
  have hcells : i < a.config.columns.toNat * a.config.rows.toNat := List.mem_range.1 hi
  have hcolumns : 0 < a.config.columns.toNat := by
    have := hvalid.1.1
    omega
  have hbounds := tileBounds_of_lt hvalid (Nat.mod_lt i hcolumns) (Nat.div_lt_of_lt_mul hcells)
  rw [pushTile, hbounds]
  rfl

/-- A sound canvas that is set up lists the quads of its pictures, in place of whatever its arena
held. -/
theorem run_updateVertices {canvas : Canvas} {a : Active} (h : canvas.active = some a)
    (hsound : canvas.Sound) :
    updateVertices.run canvas =
      ⟨(quadsOf canvas.sheet (a.config.columns * a.config.tileWidth)
          (a.config.rows * a.config.tileHeight) (canvas.pictures a.config)).2,
        { canvas with
          arena := canvas.arena.clear.writeAll
            ((quadsOf canvas.sheet (a.config.columns * a.config.tileWidth)
              (a.config.rows * a.config.tileHeight)
              (canvas.pictures a.config)).1.flatMap Quad.corners) }, []⟩ := by
  have hfits := hsound.fits a h
  have hroom : canvas.arena.clear.length + (canvas.pictures a.config).length * Quad.size ≤
      canvas.arena.clear.capacity := by
    have hlength := Nat.mul_le_mul_right Quad.size (length_pictures_le h hsound)
    have hcapacity : canvas.arena.clear.capacity = Limits.vertices := hsound.capacity
    have hlength' : canvas.arena.clear.length = 0 := rfl
    rw [hcapacity, hlength', Nat.zero_add]
    exact hlength
  simp only [updateVertices, Action.run_query_bind, config_of_active h, Action.run_ofExcept_bind,
    Config.width_of_valid hfits.valid, Config.height_of_valid hfits.valid, Action.run_get_bind]
  rw [each_pushTile h hfits.valid (hsound.cells_le_size h),
    shownSprites_eq h (hsound.slots_le_size h), ← Action.each_append]
  have hrun := run_each_pushSprite canvas.sheet (a.config.columns * a.config.tileWidth)
    (a.config.rows * a.config.tileHeight) (canvas.pictures a.config) canvas.arena.clear hroom
  rw [onArena, Action.run_part, Action.run_modify_bind]
  rw [pictures] at hrun
  rw [hrun]
  rfl

end Canvas

end Mosaic
