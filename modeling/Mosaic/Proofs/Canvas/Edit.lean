import Mosaic.Canvas.Edit
import Mosaic.Proofs.Action
import Mosaic.Proofs.Num.RowMajor

/-!
# Runs of the editing operations

What a run of each operation of `Mosaic.Canvas.Edit` comes to. An operation that edits one tile or
one slot either stops before it changes anything or writes one cell of the storage (`put` for
tiles, `place` for slots), so its run has two or three outcomes, listed in the `_cases` lemmas. The
tiles are read through `stored` and the slots through `slotted`, which are total.
-/

namespace Mosaic

namespace Config

/-- The number of tiles of the grid. -/
def cells (c : Config) : Nat := c.columns.toNat * c.rows.toNat

theorem cells_le {c : Config} (h : c.Valid) : c.cells ≤ Limits.tiles := by
  obtain ⟨⟨-, hcolumns⟩, ⟨-, hrows⟩, -⟩ := h
  exact Nat.mul_le_mul (by omega) (by omega)

/-- The place of a tile of the grid in the storage. -/
def index (c : Config) (x y : Int) : Nat := y.toNat * c.columns.toNat + x.toNat

theorem index_lt_cells {c : Config} {x y : Int} (hx : 0 ≤ x) (hx' : x < c.columns) (hy : 0 ≤ y)
    (hy' : y < c.rows) : c.index x y < c.cells :=
  RowMajor.number_lt (by omega) (by omega)

end Config

namespace Canvas

/-! ### Questions -/

/-- What is stored in a slot. -/
def slotted (canvas : Canvas) (slot : Nat) : Option Sprite := (canvas.slots[slot]?).join

theorem requireActive_of_active {canvas : Canvas} {a : Active} (h : canvas.active = some a) :
    canvas.requireActive = .ok a := by
  rw [requireActive, h]

theorem config_of_active {canvas : Canvas} {a : Active} (h : canvas.active = some a) :
    canvas.config = .ok a.config := by
  rw [config, requireActive_of_active h]
  rfl

theorem bounds_of_active {canvas : Canvas} {a : Active} (h : canvas.active = some a) :
    canvas.bounds = .ok ⟨0, 0, a.config.columns, a.config.rows⟩ := by
  rw [bounds, config_of_active h]
  rfl

theorem bounds_of_unset {canvas : Canvas} (h : canvas.active = none) :
    canvas.bounds = .error .canvasUnset := by
  rw [bounds, config, requireActive, h]
  rfl

theorem tileIndex_eq_ok_iff {canvas : Canvas} {a : Active} (h : canvas.active = some a)
    {x y : Int} {i : Nat} :
    canvas.tileIndex x y = .ok i ↔
      ((0 ≤ x ∧ x < a.config.columns) ∧ 0 ≤ y ∧ y < a.config.rows) ∧ i = a.config.index x y := by
  simp only [tileIndex, config_of_active h, bind, Except.bind]
  split
  · rename_i hgrid
    simp [hgrid, pure, Except.pure, Config.index, eq_comm]
  · rename_i hgrid
    simp [hgrid]

theorem tile_eq_ok_iff {canvas : Canvas} {a : Active} (h : canvas.active = some a) {x y : Int}
    {sprite : Option SpriteId} :
    canvas.tile x y = .ok sprite ↔
      ((0 ≤ x ∧ x < a.config.columns) ∧ 0 ≤ y ∧ y < a.config.rows) ∧
        sprite = canvas.stored (a.config.index x y) := by
  rw [tile]
  cases hi : canvas.tileIndex x y with
  | error fault =>
      constructor
      · rintro ⟨⟩
      · rintro ⟨hgrid, -⟩
        rw [(tileIndex_eq_ok_iff h).2 ⟨hgrid, rfl⟩] at hi
        cases hi
  | ok i =>
      obtain ⟨hgrid, rfl⟩ := (tileIndex_eq_ok_iff h).1 hi
      constructor
      · rintro ⟨⟩
        exact ⟨hgrid, rfl⟩
      · rintro ⟨-, rfl⟩
        rfl

theorem tile_of_mem {canvas : Canvas} {a : Active} (h : canvas.active = some a) {x y : Int}
    (hx : 0 ≤ x) (hx' : x < a.config.columns) (hy : 0 ≤ y) (hy' : y < a.config.rows) :
    canvas.tile x y = .ok (canvas.stored (a.config.index x y)) :=
  (tile_eq_ok_iff h).2 ⟨⟨⟨hx, hx'⟩, hy, hy'⟩, rfl⟩

theorem checkSlot_eq_ok_iff {canvas : Canvas} {a : Active} (h : canvas.active = some a)
    {slot : Nat} : canvas.checkSlot slot = .ok () ↔ slot < a.config.slots := by
  simp only [checkSlot, config_of_active h, bind, Except.bind, pure, Except.pure]
  split <;> simp_all

theorem sprite_of_lt {canvas : Canvas} {a : Active} (h : canvas.active = some a) {slot : Nat}
    (hslot : slot < a.config.slots) : canvas.sprite slot = .ok (canvas.slotted slot) := by
  rw [sprite, (checkSlot_eq_ok_iff h).2 hslot]
  rfl

/-! ### One cell of the storage -/

/-- The canvas with one cell of the tile storage overwritten. -/
def put (canvas : Canvas) (i : Nat) (sprite : Option SpriteId) : Canvas :=
  { canvas with tiles := canvas.tiles.setIfInBounds i sprite }

/-- The canvas with one slot overwritten. -/
def place (canvas : Canvas) (slot : Nat) (sprite : Option Sprite) : Canvas :=
  { canvas with slots := canvas.slots.setIfInBounds slot sprite }

@[simp] theorem put_sheet (canvas : Canvas) (i : Nat) (sprite : Option SpriteId) :
    (canvas.put i sprite).sheet = canvas.sheet := rfl

theorem stored_put_self {canvas : Canvas} {i : Nat} (h : i < canvas.tiles.size)
    (sprite : Option SpriteId) : (canvas.put i sprite).stored i = sprite := by
  rw [stored, put, Array.getElem?_setIfInBounds_self_of_lt h]
  rfl

theorem stored_put_of_ne {i j : Nat} (h : i ≠ j) (canvas : Canvas) (sprite : Option SpriteId) :
    (canvas.put i sprite).stored j = canvas.stored j := by
  rw [stored, put, Array.getElem?_setIfInBounds_ne h]
  rfl

theorem slotted_place_self {canvas : Canvas} {slot : Nat} (h : slot < canvas.slots.size)
    (sprite : Option Sprite) : (canvas.place slot sprite).slotted slot = sprite := by
  rw [slotted, place, Array.getElem?_setIfInBounds_self_of_lt h]
  rfl

theorem slotted_place_of_ne {i j : Nat} (h : i ≠ j) (canvas : Canvas) (sprite : Option Sprite) :
    (canvas.place i sprite).slotted j = canvas.slotted j := by
  rw [slotted, place, Array.getElem?_setIfInBounds_ne h]
  rfl

/-! ### The tiles of the grid -/

/-- What is stored in the tiles of the grid, row after row. -/
def gridTiles (canvas : Canvas) (c : Config) : List (Option SpriteId) :=
  canvas.tiles.toList.take c.cells

theorem length_gridTiles {canvas : Canvas} {c : Config}
    (h : c.cells ≤ canvas.tiles.size) :
    (canvas.gridTiles c).length = c.cells := by
  rw [gridTiles, List.length_take, Array.length_toList, Nat.min_eq_left h]

theorem getElem?_gridTiles {canvas : Canvas} {c : Config} (h : c.cells ≤ canvas.tiles.size)
    {i : Nat} (hi : i < c.cells) :
    (canvas.gridTiles c)[i]? = some (canvas.stored i) := by
  have hsize : i < canvas.tiles.size := Nat.lt_of_lt_of_le hi h
  rw [gridTiles, List.getElem?_take_of_lt hi, Array.getElem?_toList, stored,
    Array.getElem?_eq_getElem hsize]
  rfl

theorem gridTiles_put (canvas : Canvas) (c : Config) (i : Nat) (sprite : Option SpriteId) :
    (canvas.put i sprite).gridTiles c = (canvas.gridTiles c).set i sprite := by
  rw [gridTiles, put, Array.toList_setIfInBounds, List.take_set]
  rfl

/-! ### Runs -/

theorem run_store (i : Nat) (sprite : Option SpriteId) (canvas : Canvas) :
    (store i sprite).run canvas = ⟨.ok (), canvas.put i sprite, []⟩ := rfl

theorem run_setTile_of_ok {canvas : Canvas} {sprite : Option SpriteId} {x y : Int} {i : Nat}
    (hi : canvas.tileIndex x y = .ok i) (hs : canvas.sheet.checkOption sprite = .ok ()) :
    (setTile sprite x y).run canvas = ⟨.ok (), canvas.put i sprite, []⟩ := by
  simp only [setTile, Action.run_query_bind, hi, hs, run_store]

theorem run_setTile_cases (sprite : Option SpriteId) (x y : Int) (canvas : Canvas) :
    (∃ fault, (setTile sprite x y).run canvas = ⟨.error fault, canvas, []⟩) ∨
      ∃ i, canvas.tileIndex x y = .ok i ∧ canvas.sheet.checkOption sprite = .ok () ∧
        (setTile sprite x y).run canvas = ⟨.ok (), canvas.put i sprite, []⟩ := by
  cases hi : canvas.tileIndex x y with
  | error fault => exact .inl ⟨fault, by simp only [setTile, Action.run_query_bind, hi]⟩
  | ok i =>
      cases hs : canvas.sheet.checkOption sprite with
      | error fault =>
          left
          exact ⟨fault, by simp only [setTile, Action.run_query_bind, hi, hs]⟩
      | ok u => exact .inr ⟨i, rfl, rfl, run_setTile_of_ok hi hs⟩

theorem run_setSprite_of_ok {canvas : Canvas} {slot : Nat} {sprite : Option SpriteId}
    (bounds : Rect) (hslot : canvas.checkSlot slot = .ok ())
    (hs : canvas.sheet.checkOption sprite = .ok ()) :
    (setSprite slot sprite bounds).run canvas =
      ⟨.ok (), canvas.place slot (sprite.map fun id => ⟨id, bounds⟩), []⟩ := by
  simp only [setSprite, Action.run_query_bind, hslot, hs]
  rfl

theorem run_setSprite_cases (slot : Nat) (sprite : Option SpriteId) (bounds : Rect)
    (canvas : Canvas) :
    (∃ fault, (setSprite slot sprite bounds).run canvas = ⟨.error fault, canvas, []⟩) ∨
      canvas.checkSlot slot = .ok () ∧ canvas.sheet.checkOption sprite = .ok () ∧
        (setSprite slot sprite bounds).run canvas =
          ⟨.ok (), canvas.place slot (sprite.map fun id => ⟨id, bounds⟩), []⟩ := by
  cases hslot : canvas.checkSlot slot with
  | error fault => exact .inl ⟨fault, by simp only [setSprite, Action.run_query_bind, hslot]⟩
  | ok u =>
      cases hs : canvas.sheet.checkOption sprite with
      | error fault =>
          left
          exact ⟨fault, by simp only [setSprite, Action.run_query_bind, hslot, hs]⟩
      | ok u => exact .inr ⟨rfl, rfl, run_setSprite_of_ok bounds hslot hs⟩

theorem run_clear_of_active {canvas : Canvas} {a : Active} (h : canvas.active = some a) :
    clear.run canvas = ⟨.ok (), canvas.emptied, []⟩ := by
  simp only [clear, Action.run_query_bind, requireActive_of_active h]
  rfl

theorem run_clear_cases (canvas : Canvas) :
    clear.run canvas = ⟨.error .canvasUnset, canvas, []⟩ ∨
      clear.run canvas = ⟨.ok (), canvas.emptied, []⟩ := by
  cases h : canvas.active with
  | none =>
      left
      simp only [clear, Action.run_query_bind, requireActive, h]
  | some a => exact .inr (run_clear_of_active h)

/-! ### Blocks of tiles -/

/-- The block of a text that is copied to a canvas of the given geometry. -/
def blockAt (c : Config) (target : Rect) : Block :=
  ⟨target, (Rect.mk 0 0 c.columns c.rows).clip target, c.columns.toNat⟩

/-- The place in the storage of the tile of character number `i`. -/
def Block.index (block : Block) (i : Nat) : Option Nat :=
  (block.place i).map fun p => p.y.toNat * block.stride + p.x.toNat

theorem run_copyCharacter_of_place {block : Block} {i j : Nat} {canvas : Canvas} {character : Char}
    (h : block.index i = some j)
    (hs : canvas.sheet.checkOption (canvas.sheet.spriteFor character) = .ok ()) :
    (copyCharacter block character i).run canvas =
      ⟨.ok (), canvas.put j (canvas.sheet.spriteFor character), []⟩ := by
  obtain ⟨p, hp, rfl⟩ := Option.map_eq_some_iff.1 h
  simp only [copyCharacter, hp, Action.run_query_bind, hs, run_store]

theorem run_copyCharacter_of_none {block : Block} {i : Nat} (h : block.index i = none)
    (character : Char) (canvas : Canvas) :
    (copyCharacter block character i).run canvas = ⟨.ok (), canvas, []⟩ := by
  simp only [copyCharacter, Option.map_eq_none_iff.1 h]
  rfl

theorem run_copyCharacter_cases (block : Block) (character : Char) (i : Nat) (canvas : Canvas) :
    (block.index i = none ∧ (copyCharacter block character i).run canvas = ⟨.ok (), canvas, []⟩) ∨
      (∃ fault, (copyCharacter block character i).run canvas = ⟨.error fault, canvas, []⟩) ∨
      ∃ j, block.index i = some j ∧
        canvas.sheet.checkOption (canvas.sheet.spriteFor character) = .ok () ∧
        (copyCharacter block character i).run canvas =
          ⟨.ok (), canvas.put j (canvas.sheet.spriteFor character), []⟩ := by
  cases h : block.index i with
  | none => exact .inl ⟨rfl, run_copyCharacter_of_none h character canvas⟩
  | some j =>
      cases hs : canvas.sheet.checkOption (canvas.sheet.spriteFor character) with
      | ok u => exact .inr (.inr ⟨j, rfl, rfl, run_copyCharacter_of_place h hs⟩)
      | error fault =>
          right; left
          obtain ⟨p, hp, -⟩ := Option.map_eq_some_iff.1 h
          exact ⟨fault, by simp only [copyCharacter, hp, Action.run_query_bind, hs]⟩

/-- Copies the characters of a text, each with its number, to a block. -/
def copyAll (block : Block) (text : List (Char × Nat)) : Action Canvas Unit :=
  Action.each (fun (character, i) => copyCharacter block character i) text

/-- The sheet has each sprite that a character of the text brings to a tile. -/
def Block.Accepts (block : Block) (sheet : Sheet) (text : List (Char × Nat)) : Prop :=
  ∀ entry ∈ text, (block.index entry.2).isSome →
    sheet.checkOption (sheet.spriteFor entry.1) = .ok ()

/-- A text of which each character is accepted is copied to its end. -/
theorem copyAll_result_of_accepts {block : Block} {text : List (Char × Nat)} {canvas : Canvas}
    (h : block.Accepts canvas.sheet text) : ((copyAll block text).run canvas).result = .ok () := by
  induction text generalizing canvas with
  | nil => rfl
  | cons entry text ih =>
      obtain ⟨character, i⟩ := entry
      have hrest : block.Accepts canvas.sheet text := fun other hother =>
        h other (List.mem_cons_of_mem _ hother)
      rw [copyAll, Action.each_cons]
      cases hi : block.index i with
      | none =>
          rw [Action.run_bind_of_silent (run_copyCharacter_of_none hi character canvas)]
          exact ih hrest
      | some j =>
          have hcheck := h (character, i) List.mem_cons_self (by rw [hi]; rfl)
          rw [Action.run_bind_of_silent (run_copyCharacter_of_place hi hcheck)]
          exact ih hrest

theorem run_copyText_of_length {canvas : Canvas} {a : Active} (h : canvas.active = some a)
    {target : Rect} {text : List Char} (hsize : 0 ≤ target.width ∧ 0 ≤ target.height)
    (hlength : text.length = target.width.toNat * target.height.toNat) :
    ∃ notes, (copyText target text).run canvas =
      ⟨((copyAll (blockAt a.config target) text.zipIdx).run canvas).result,
        ((copyAll (blockAt a.config target) text.zipIdx).run canvas).state, notes⟩ := by
  have hsign : ¬ (target.width < 0 ∨ target.height < 0) := by omega
  simp only [copyText, Action.run_query_bind, bounds_of_active h, hsign, if_false, hlength, ne_eq,
    not_true_eq_false]
  split
  · rw [Action.run_log_bind]
    exact ⟨_, rfl⟩
  · exact ⟨_, rfl⟩

theorem run_copyText_cases {canvas : Canvas} {a : Active} (h : canvas.active = some a)
    (target : Rect) (text : List Char) :
    (∃ fault, (copyText target text).run canvas = ⟨.error fault, canvas, []⟩) ∨
      (0 ≤ target.width ∧ 0 ≤ target.height) ∧
        text.length = target.width.toNat * target.height.toNat := by
  by_cases hsign : target.width < 0 ∨ target.height < 0
  · left
    refine ⟨.negativeMap target.width target.height, ?_⟩
    simp only [copyText, Action.run_query_bind, bounds_of_active h, hsign, if_true,
      Action.run_fault]
  · by_cases hlength : text.length = target.width.toNat * target.height.toNat
    · exact .inr ⟨by omega, hlength⟩
    · left
      refine ⟨.mapLength target.width target.height
        (target.width.toNat * target.height.toNat) text.length, ?_⟩
      simp only [copyText, Action.run_query_bind, bounds_of_active h, hsign, if_false, hlength,
        ne_eq, not_false_eq_true, if_true, Action.run_fault]

theorem run_copyText_of_unset {canvas : Canvas} (h : canvas.active = none) (target : Rect)
    (text : List Char) :
    (copyText target text).run canvas = ⟨.error .canvasUnset, canvas, []⟩ := by
  simp only [copyText, Action.run_query_bind, bounds_of_unset h]

end Canvas

end Mosaic
