import Mosaic.Device.Recorder
import Mosaic.Proofs.Stage.Run

/-!
# The invariant of a canvas over a whole run

The storage of a canvas is shared by all its lives, and each life uses its own part of it with its
own row length. In every state of a run in which the canvas is set up, what lies outside that part
is empty and what lies inside is on the sheet, so listing the vertices stays within the storage,
within the arena and within signed numbers, and asks the sheet for sprites of the sheet alone.
-/

namespace Mosaic

namespace Stage

variable {δ : Type} [Device δ]

theorem sound_after (sheet : Sheet) (device : δ) (events : List (Event δ)) :
    ((fresh sheet device).after events).canvas.Sound :=
  (keeps_after (fresh sheet device) events).sound (Canvas.sound_fresh sheet)

theorem sheet_after (stage : Stage δ) (events : List (Event δ)) :
    (stage.after events).canvas.sheet = stage.canvas.sheet :=
  (keeps_after stage events).sheet

end Stage

namespace Canvas

/-- The canvas on a sheet that has the sprites at other places. -/
def withPlaces (canvas : Canvas) (uv : SpriteId → Except Fault UvRect) : Canvas :=
  { canvas with sheet := { canvas.sheet with uv := uv } }

theorem pictures_withPlaces (canvas : Canvas) (uv : SpriteId → Except Fault UvRect) (c : Config) :
    (canvas.withPlaces uv).pictures c = canvas.pictures c := rfl

theorem Sound.withPlaces {canvas : Canvas} (h : canvas.Sound)
    (uv : SpriteId → Except Fault UvRect) : (canvas.withPlaces uv).Sound :=
  { h with fits := fun a ha => ⟨(h.fits a ha).valid, (h.fits a ha).stored_beyond,
      (h.fits a ha).slotted_beyond⟩ }

/-- Listing the vertices of a sound canvas stops only where the sheet does not know the place of a
sprite that is shown. -/
theorem updateVertices_result_cases {canvas : Canvas} {a : Active} (h : canvas.active = some a)
    (hsound : canvas.Sound) :
    (updateVertices.run canvas).result = .ok () ∨
      ∃ id fault, canvas.Shows id ∧ canvas.sheet.uv id = .error fault ∧
        (updateVertices.run canvas).result = .error fault := by
  rw [run_updateVertices h hsound]
  obtain hok | ⟨s, hs, fault, huv, hfault⟩ := quadsOf_snd_cases canvas.sheet
    (a.config.columns * a.config.tileWidth) (a.config.rows * a.config.tileHeight)
    (canvas.pictures a.config)
  · exact .inl hok
  · exact .inr ⟨s.id, fault, shows_of_mem_pictures h hs, huv, hfault⟩

/-- Listing the vertices of a sound canvas does not ask for the place of a sprite that is not on
the sheet. -/
theorem updateVertices_withPlaces {canvas : Canvas} {a : Active} (h : canvas.active = some a)
    (hsound : canvas.Sound) {uv : SpriteId → Except Fault UvRect}
    (huv : ∀ id, canvas.sheet.Contains id → uv id = canvas.sheet.uv id) :
    updateVertices.run (canvas.withPlaces uv) =
      ⟨(updateVertices.run canvas).result, (updateVertices.run canvas).state.withPlaces uv,
        (updateVertices.run canvas).notes⟩ := by
  have hquads := quadsOf_congr { canvas.sheet with uv := uv } canvas.sheet
    (a.config.columns * a.config.tileWidth) (a.config.rows * a.config.tileHeight)
    fun s hs => huv s.id (hsound.onSheet s.id (shows_of_mem_pictures h hs))
  have hactive : (canvas.withPlaces uv).active = some a := h
  rw [run_updateVertices hactive (hsound.withPlaces uv), run_updateVertices h hsound,
    pictures_withPlaces]
  simp only [withPlaces, hquads]

end Canvas

namespace Stage

/-- In every state of a run in which the canvas is set up, its configuration is accepted, nothing is
stored outside the grid and the slots of this configuration, every stored sprite is on the sheet,
and the vertices are whole quads and fit the arena. Listing the vertices then stays within the
storage, stops only where the sheet does not know the place of a sprite that is shown, and comes to
the same on any sheet that knows the same places for the sprites that it has. -/
theorem canvas_invariant {δ : Type} [Device δ] (sheet : Sheet) (device : δ)
    (events : List (Event δ)) (canvas : Canvas)
    (hcanvas : ((fresh sheet device).after events).canvas = canvas) (a : Active)
    (h : canvas.active = some a) :
    a.config.validate = .ok () ∧
      (∀ i, a.config.cells ≤ i → canvas.stored i = none) ∧
      (∀ i, a.config.slots ≤ i → canvas.slotted i = none) ∧
      (∀ id, canvas.Shows id → sheet.Contains id) ∧
      (6 ∣ canvas.vertexCount ∧ canvas.vertexCount ≤ Limits.vertices ∧
        canvas.vertices.length = canvas.vertexCount) ∧
      (a.config.cells ≤ canvas.tiles.size ∧ a.config.slots ≤ canvas.slots.size) ∧
      ((Canvas.updateVertices.run canvas).result = .ok () ∨
        ∃ id fault, canvas.Shows id ∧ sheet.uv id = .error fault ∧
          (Canvas.updateVertices.run canvas).result = .error fault) ∧
      ∀ uv : SpriteId → Except Fault UvRect, (∀ id, sheet.Contains id → uv id = sheet.uv id) →
        Canvas.updateVertices.run (canvas.withPlaces uv) =
          ⟨(Canvas.updateVertices.run canvas).result,
            (Canvas.updateVertices.run canvas).state.withPlaces uv,
            (Canvas.updateVertices.run canvas).notes⟩ := by
  have hsound : canvas.Sound := hcanvas ▸ sound_after sheet device events
  have hsheet : canvas.sheet = sheet := hcanvas ▸ sheet_after (fresh sheet device) events
  have hfits := hsound.fits a h
  subst hsheet
  refine ⟨Config.validate_eq_ok_iff.2 hfits.valid, hfits.stored_beyond, hfits.slotted_beyond,
    hsound.onSheet, ⟨hsound.whole.dvd, ?_, ?_⟩, ⟨hsound.cells_le_size h, hsound.slots_le_size h⟩,
    Canvas.updateVertices_result_cases h hsound,
    fun uv huv => Canvas.updateVertices_withPlaces h hsound huv⟩
  · exact Nat.le_trans hsound.whole.le (Nat.le_of_eq hsound.capacity)
  · exact Arena.length_vertices hsound.whole.wellFormed

/-- A sheet with one sprite on which a name leads to a sprite that it does not have. -/
def straySheet : Sheet where
  count := 1
  spriteFor name := if name = 'x' then some ⟨7⟩ else some ⟨0⟩
  uv _ := .ok default
  image := ⟨1, 1, #[0, 0, 0, 0]⟩

/-- A run in which a text stops half way, at the name that leads off the sheet. -/
def strayRun : List (Event Recorder) := [
  .command (.setup ⟨3, 2, 8, 8, 1⟩),
  .command (.setSprite 0 (some ⟨0⟩) ⟨-4, 2, 9, 9⟩),
  .command (.copyText ⟨-1, 1, 4, 1⟩ ['x', '.', 'x', '.']),
  .command .render]

theorem canvas_invariant_strayRun :
    let canvas := ((fresh straySheet Recorder.fresh).after strayRun).canvas
    canvas.active = some ⟨⟨3, 2, 8, 8, 1⟩, ⟨⟨1⟩, ⟨2⟩, ⟨3⟩, ⟨4⟩⟩⟩ ∧
      (canvas.tile 0 1 = .ok (some ⟨0⟩) ∧ canvas.tile 1 1 = .ok none) ∧
      canvas.stored 6 = none ∧ canvas.vertexCount = 12 ∧ 6 ∣ canvas.vertexCount := by
  have hactive : ((fresh straySheet Recorder.fresh).after strayRun).canvas.active =
      some ⟨⟨3, 2, 8, 8, 1⟩, ⟨⟨1⟩, ⟨2⟩, ⟨3⟩, ⟨4⟩⟩⟩ := by decide +kernel
  have hinvariant := canvas_invariant straySheet Recorder.fresh strayRun _ rfl _ hactive
  refine ⟨hactive, ?_, hinvariant.2.1 6 (by decide), ?_, hinvariant.2.2.2.2.1.1⟩
  · decide +kernel
  · decide +kernel

end Stage

end Mosaic
