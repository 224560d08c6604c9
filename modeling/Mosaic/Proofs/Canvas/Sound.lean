import Mosaic.Canvas.Vertices
import Mosaic.Proofs.Canvas.Edit
import Mosaic.Proofs.Vertex.Arena

/-!
# Sound canvases

A canvas is `Sound` when its storage has its fixed size, its arena is whole, every sprite that it
shows is on its sheet, and, while it is set up, its configuration is accepted and nothing is stored
outside the part of the storage that the configuration asks for (`Fits`). Each operation of a
canvas keeps the sheet and takes a sound canvas to a sound one, also when it stops half way; this
is `Keeps`, a preorder on canvases, so that it passes from the parts of an operation to the whole.
-/

namespace Mosaic

namespace Canvas

/-- A sprite is stored in a tile or a slot of the canvas. -/
def Shows (canvas : Canvas) (id : SpriteId) : Prop :=
  (∃ i, canvas.stored i = some id) ∨ ∃ i s, canvas.slotted i = some s ∧ s.id = id

/-- The canvas stores nothing outside the part of its storage that the configuration asks for, and
the configuration is accepted. -/
structure Fits (canvas : Canvas) (c : Config) : Prop where
  valid : c.Valid
  stored_beyond : ∀ i, c.cells ≤ i → canvas.stored i = none
  slotted_beyond : ∀ i, c.slots ≤ i → canvas.slotted i = none

structure Sound (canvas : Canvas) : Prop where
  size_tiles : canvas.tiles.size = Limits.tiles
  size_slots : canvas.slots.size = Limits.slots
  capacity : canvas.arena.capacity = Limits.vertices
  whole : canvas.arena.Whole
  onSheet : ∀ id, canvas.Shows id → canvas.sheet.Contains id
  fits : ∀ a, canvas.active = some a → canvas.Fits a.config

/-- The grid lies within the storage. -/
theorem Sound.cells_le_size {canvas : Canvas} (h : canvas.Sound) {a : Active}
    (ha : canvas.active = some a) : a.config.cells ≤ canvas.tiles.size := by
  rw [h.size_tiles]
  exact Config.cells_le (h.fits a ha).valid

theorem Sound.slots_le_size {canvas : Canvas} (h : canvas.Sound) {a : Active}
    (ha : canvas.active = some a) : a.config.slots ≤ canvas.slots.size := by
  rw [h.size_slots]
  exact (h.fits a ha).valid.2.2.2.2

/-! ### Canvases that store nothing -/

theorem stored_emptied (canvas : Canvas) (i : Nat) : canvas.emptied.stored i = none := by
  simp only [stored, emptied, Array.getElem?_replicate]
  split <;> rfl

theorem slotted_emptied (canvas : Canvas) (i : Nat) : canvas.emptied.slotted i = none := by
  simp only [slotted, emptied, Array.getElem?_replicate]
  split <;> rfl

theorem not_shows_of_empty {canvas : Canvas} (htiles : ∀ i, canvas.stored i = none)
    (hslots : ∀ i, canvas.slotted i = none) (id : SpriteId) : ¬ canvas.Shows id := by
  rintro (⟨i, hi⟩ | ⟨i, s, hi, -⟩)
  · rw [htiles i] at hi
    cases hi
  · rw [hslots i] at hi
    cases hi

/-- A canvas with full-sized storage in which nothing is stored, whatever its configuration. -/
theorem sound_of_empty {canvas : Canvas} (hsize : canvas.tiles.size = Limits.tiles)
    (hsize' : canvas.slots.size = Limits.slots)
    (hcapacity : canvas.arena.capacity = Limits.vertices)
    (hwhole : canvas.arena.Whole) (htiles : ∀ i, canvas.stored i = none)
    (hslots : ∀ i, canvas.slotted i = none)
    (hvalid : ∀ a, canvas.active = some a → a.config.Valid) : canvas.Sound where
  size_tiles := hsize
  size_slots := hsize'
  capacity := hcapacity
  whole := hwhole
  onSheet id h := absurd h (not_shows_of_empty htiles hslots id)
  fits a ha := ⟨hvalid a ha, fun i _ => htiles i, fun i _ => hslots i⟩

theorem sound_fresh (sheet : Sheet) : (fresh sheet).Sound := by
  have hempty := stored_emptied (fresh sheet)
  refine sound_of_empty Array.size_replicate Array.size_replicate rfl (Arena.whole_ofCapacity _)
    hempty (slotted_emptied (fresh sheet)) ?_
  intro a ha
  cases ha

/-! ### What every operation keeps -/

/-- The sheet stays, and a sound canvas stays sound. -/
structure Keeps (before after : Canvas) : Prop where
  sheet : after.sheet = before.sheet
  sound : before.Sound → after.Sound

instance : IsPreorder Canvas Keeps where
  refl _ := ⟨rfl, id⟩
  trans _ _ _ hab hbc := ⟨hbc.sheet.trans hab.sheet, fun h => hbc.sound (hab.sound h)⟩

theorem sound_put {canvas : Canvas} (h : canvas.Sound) {i : Nat} {sprite : Option SpriteId}
    (hi : ∀ a, canvas.active = some a → i < a.config.cells)
    (hsprite : ∀ id ∈ sprite, canvas.sheet.Contains id) : (canvas.put i sprite).Sound := by
  have hstored : ∀ j, (canvas.put i sprite).stored j = sprite ∨
      (canvas.put i sprite).stored j = canvas.stored j := by
    intro j
    by_cases hij : i = j
    · subst hij
      by_cases hsize : i < canvas.tiles.size
      · exact .inl (stored_put_self hsize sprite)
      · right
        rw [put, Array.setIfInBounds_eq_of_size_le (by omega)]
    · exact .inr (stored_put_of_ne hij canvas sprite)
  refine { h with size_tiles := ?_, onSheet := ?_, fits := ?_ }
  · rw [put, Array.size_setIfInBounds, h.size_tiles]
  · rintro id (⟨j, hj⟩ | hslot)
    · rcases hstored j with hnew | hold
      · exact hsprite id (hnew ▸ hj)
      · exact h.onSheet id (.inl ⟨j, hold ▸ hj⟩)
    · exact h.onSheet id (.inr hslot)
  · intro a ha
    have hfits := h.fits a ha
    refine ⟨hfits.valid, ?_, hfits.slotted_beyond⟩
    intro j hj
    have hlt := hi a ha
    rw [stored_put_of_ne (by omega), hfits.stored_beyond j hj]

theorem sound_place {canvas : Canvas} (h : canvas.Sound) {slot : Nat} {sprite : Option Sprite}
    (hslot : ∀ a, canvas.active = some a → slot < a.config.slots)
    (hsprite : ∀ s ∈ sprite, canvas.sheet.Contains s.id) : (canvas.place slot sprite).Sound := by
  have hslotted : ∀ j, (canvas.place slot sprite).slotted j = sprite ∨
      (canvas.place slot sprite).slotted j = canvas.slotted j := by
    intro j
    by_cases hij : slot = j
    · subst hij
      by_cases hsize : slot < canvas.slots.size
      · exact .inl (slotted_place_self hsize sprite)
      · right
        rw [place, Array.setIfInBounds_eq_of_size_le (by omega)]
    · exact .inr (slotted_place_of_ne hij canvas sprite)
  refine { h with size_slots := ?_, onSheet := ?_, fits := ?_ }
  · rw [place, Array.size_setIfInBounds, h.size_slots]
  · rintro id (htile | ⟨j, s, hj, rfl⟩)
    · exact h.onSheet id (.inl htile)
    · rcases hslotted j with hnew | hold
      · exact hsprite s (hnew ▸ hj)
      · exact h.onSheet s.id (.inr ⟨j, s, hold ▸ hj, rfl⟩)
  · intro a ha
    have hfits := h.fits a ha
    refine ⟨hfits.valid, hfits.stored_beyond, ?_⟩
    intro j hj
    have hlt := hslot a ha
    rw [slotted_place_of_ne (by omega), hfits.slotted_beyond j hj]

theorem sound_emptied {canvas : Canvas} (h : canvas.Sound) : canvas.emptied.Sound :=
  sound_of_empty Array.size_replicate Array.size_replicate h.capacity h.whole
    (stored_emptied canvas) (slotted_emptied canvas) fun a ha => (h.fits a ha).valid

/-! ### The editing operations -/

theorem follows_setTile (sprite : Option SpriteId) (x y : Int) :
    Action.Follows Keeps (setTile sprite x y) := by
  intro canvas
  obtain ⟨fault, hrun⟩ | ⟨i, hi, hs, hrun⟩ := run_setTile_cases sprite x y canvas
  · rw [hrun]
    exact refl_of Keeps canvas
  · rw [hrun]
    refine ⟨rfl, fun h => sound_put h ?_ (Sheet.checkOption_eq_ok_iff.1 hs)⟩
    intro a ha
    obtain ⟨⟨⟨hx, hx'⟩, hy, hy'⟩, rfl⟩ := (tileIndex_eq_ok_iff ha).1 hi
    exact Config.index_lt_cells hx hx' hy hy'

theorem follows_setSprite (slot : Nat) (sprite : Option SpriteId) (bounds : Rect) :
    Action.Follows Keeps (setSprite slot sprite bounds) := by
  intro canvas
  obtain ⟨fault, hrun⟩ | ⟨hslot, hs, hrun⟩ := run_setSprite_cases slot sprite bounds canvas
  · rw [hrun]
    exact refl_of Keeps canvas
  · rw [hrun]
    refine ⟨rfl, fun h => sound_place h (fun a ha => (checkSlot_eq_ok_iff ha).1 hslot) ?_⟩
    intro s hsprite
    obtain ⟨id, hid, rfl⟩ := Option.map_eq_some_iff.1 hsprite
    exact Sheet.checkOption_eq_ok_iff.1 hs id hid

theorem follows_clear : Action.Follows Keeps clear := by
  intro canvas
  obtain hrun | hrun := run_clear_cases canvas
  · rw [hrun]
    exact refl_of Keeps canvas
  · rw [hrun]
    exact ⟨rfl, sound_emptied⟩

theorem mem_side_of_mem_clip {size start stop p : Int}
    (hlength : ¬ Bounded.clampSigned (min (Bounded.clampSigned (0 + size)) stop - max 0 start) ≤ 0)
    (hstart : max 0 start ≤ p)
    (hstop : p < Bounded.clampSigned (max 0 start +
      Bounded.clampSigned (min (Bounded.clampSigned (0 + size)) stop - max 0 start))) :
    0 ≤ p ∧ p < size := by
  simp only [Bounded.clampSigned, Bounded.minSigned, Bounded.maxSigned] at hlength hstop
  omega

theorem mem_grid_of_mem_clip {columns rows : Int} {target : Rect} {p : Point}
    (h : p ∈ (Rect.mk 0 0 columns rows).clip target) :
    (0 ≤ p.x ∧ p.x < columns) ∧ 0 ≤ p.y ∧ p.y < rows := by
  unfold Rect.clip at h
  dsimp only at h
  split at h
  · exact absurd h (Rect.not_mem_empty p)
  · rename_i hempty
    rw [Rect.isEmpty_iff, not_or] at hempty
    obtain ⟨⟨hx, hx'⟩, hy, hy'⟩ := Rect.mem_iff.1 h
    exact ⟨mem_side_of_mem_clip hempty.1 hx hx', mem_side_of_mem_clip hempty.2 hy hy'⟩

/-- A character is copied to a tile of the grid or to none. -/
theorem index_lt_of_index_blockAt {c : Config} {target : Rect} {i j : Nat}
    (h : (blockAt c target).index i = some j) : j < c.cells := by
  obtain ⟨p, hp, rfl⟩ := Option.map_eq_some_iff.1 h
  unfold Block.place at hp
  dsimp only at hp
  split at hp
  · rename_i hmem
    obtain ⟨-, -, hmem⟩ := hmem
    cases hp
    obtain ⟨⟨hx, hx'⟩, hy, hy'⟩ := mem_grid_of_mem_clip hmem
    exact Config.index_lt_cells hx hx' hy hy'
  · cases hp

/-- What a canvas keeps while it is edited and stays set up as it is. -/
structure KeepsActive (before after : Canvas) : Prop extends Keeps before after where
  active : after.active = before.active

theorem KeepsActive.trans {a b c : Canvas} (hab : KeepsActive a b) (hbc : KeepsActive b c) :
    KeepsActive a c :=
  ⟨trans_of Keeps hab.toKeeps hbc.toKeeps, hbc.active.trans hab.active⟩

theorem keepsActive_copyAll {canvas : Canvas} {a : Active} (h : canvas.active = some a)
    (target : Rect) (text : List (Char × Nat)) :
    KeepsActive canvas ((copyAll (blockAt a.config target) text).run canvas).state := by
  refine Action.each_keeps (P := KeepsActive canvas) ?_ ⟨refl_of Keeps canvas, rfl⟩
  rintro ⟨character, i⟩ - s hs
  obtain ⟨-, hrun⟩ | ⟨fault, hrun⟩ | ⟨j, hj, hsprite, hrun⟩ :=
    run_copyCharacter_cases (blockAt a.config target) character i s
  · rw [hrun]
    exact hs
  · rw [hrun]
    exact hs
  · rw [hrun]
    refine ⟨⟨hs.sheet, fun hsound => ?_⟩, hs.active⟩
    refine sound_put (hs.sound hsound) ?_ (Sheet.checkOption_eq_ok_iff.1 hsprite)
    intro b hb
    rw [hs.active, h] at hb
    cases hb
    exact index_lt_of_index_blockAt hj

theorem follows_copyText (target : Rect) (text : List Char) :
    Action.Follows Keeps (copyText target text) := by
  intro canvas
  cases h : canvas.active with
  | none =>
      rw [run_copyText_of_unset h]
      exact refl_of Keeps canvas
  | some a =>
      obtain ⟨fault, hrun⟩ | ⟨hsize, hlength⟩ := run_copyText_cases h target text
      · rw [hrun]
        exact refl_of Keeps canvas
      · obtain ⟨notes, hrun⟩ := run_copyText_of_length h hsize hlength
        rw [hrun]
        exact (keepsActive_copyAll h target text.zipIdx).toKeeps

/-! ### Listing the vertices -/

theorem follows_onArena {α : Type} {action : Action Arena α}
    (h : Action.Follows Arena.Fills action) : Action.Follows Keeps (onArena action) := by
  refine Action.follows_part h fun canvas arena hfills => ⟨rfl, fun hsound => ?_⟩
  exact { hsound with
    capacity := hfills.1.trans hsound.capacity
    whole := hfills.2 hsound.whole
    fits := fun a ha => ⟨(hsound.fits a ha).valid, (hsound.fits a ha).stored_beyond,
      (hsound.fits a ha).slotted_beyond⟩ }

theorem follows_pushSprite (sheet : Sheet) (width height : Int) (sprite : Sprite) :
    Action.Follows Arena.Fills (pushSprite sheet width height sprite) :=
  Action.follows_bind (Action.follows_ofExcept _) fun _ => Arena.follows_push _

theorem follows_pushTile (sheet : Sheet) (c : Config) (width height : Int)
    (tile : Nat × Nat × SpriteId) :
    Action.Follows Arena.Fills (pushTile sheet c width height tile) :=
  Action.follows_bind (Action.follows_ofExcept _) fun _ => follows_pushSprite sheet width height _

theorem follows_updateVertices : Action.Follows Keeps updateVertices := by
  refine Action.follows_bind (Action.follows_query _) fun c => ?_
  refine Action.follows_bind (Action.follows_ofExcept _) fun width => ?_
  refine Action.follows_bind (Action.follows_ofExcept _) fun height => ?_
  refine Action.follows_bind Action.follows_get fun canvas => ?_
  refine follows_onArena (Action.follows_bind Arena.follows_clear fun _ => ?_)
  refine Action.follows_bind (Action.follows_each fun tile _ => ?_) fun _ => ?_
  · exact follows_pushTile canvas.sheet c width height tile
  · exact Action.follows_each fun sprite _ => follows_pushSprite canvas.sheet width height sprite

end Canvas

end Mosaic
