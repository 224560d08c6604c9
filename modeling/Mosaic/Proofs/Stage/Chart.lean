import Mathlib.Data.Finset.Card
import Mathlib.Data.Finset.Range
import Mosaic.Device.Recorder
import Mosaic.Proofs.Stage.Writes

/-!
# A canvas as a map

Whatever the row length of its storage and however often it was set up, a canvas answers as a plain
map from coordinates to sprites would, together with one from slots to sprites. What a tile shows is
what the last completed command to write it left there, and nothing when there was none since the
canvas was set up or cleared (`lastTile`, `lastSprite`).
-/

namespace Mosaic

namespace Canvas

/-! ### Counting -/

theorem countP_map_range {α : Type} (value : Nat → Option α) (n : Nat) :
    ((List.range n).map value).countP Option.isSome =
      {i ∈ Finset.range n | (value i).isSome}.card := by
  have hsome : Option.isSome ∘ value = fun i => decide ((value i).isSome = true) := by
    funext i
    simp
  rw [List.countP_map, hsome, ← Multiset.coe_countP, Multiset.countP_eq_card_filter]
  rfl

variable {canvas : Canvas} {a : Active}

/-- The tiles that show a sprite are counted by their coordinates. -/
theorem occupied_eq_card (h : canvas.active = some a) (hsound : canvas.Sound) :
    canvas.occupied =
      .ok {p ∈ a.config.grid | (canvas.stored (a.config.index p.1 p.2)).isSome}.card := by
  have hsize := hsound.cells_le_size h
  rw [occupied_eq h (hsound.fits a h) hsound.size_tiles, length_tilePictures h hsize,
    ← map_stored_range hsize, countP_map_range]
  congr 1
  symm
  refine Finset.card_bij (fun p _ => a.config.index p.1 p.2) ?_ ?_ ?_
  · rintro ⟨x, y⟩ hp
    simp only [Finset.mem_filter, Finset.mem_range] at hp ⊢
    exact ⟨Config.index_lt_of_mem_grid hp.1, hp.2⟩
  · rintro ⟨x, y⟩ hp ⟨x', y'⟩ hp' heq
    rw [Finset.mem_filter] at hp hp'
    exact Prod.ext_iff.2 ((Config.index_inj hp.1 hp'.1).1 heq)
  · intro i hi
    rw [Finset.mem_filter, Finset.mem_range] at hi
    obtain ⟨⟨hcolumns, -⟩, -⟩ := (hsound.fits a h).valid
    have hcell : i < a.config.columns.toNat * a.config.rows.toNat := hi.1
    have hcolumn := Nat.mod_lt i (y := a.config.columns.toNat) (by omega)
    have hrow := Nat.div_lt_of_lt_mul hcell
    let x : Int := (i % a.config.columns.toNat : Nat)
    let y : Int := (i / a.config.columns.toNat : Nat)
    have hgrid : (x, y) ∈ a.config.grid := Config.mem_grid.2
      ⟨⟨Int.natCast_nonneg _, Int.lt_toNat.1 hcolumn⟩, Int.natCast_nonneg _, Int.lt_toNat.1 hrow⟩
    have hindex : a.config.index x y = i := by
      rw [Config.index_eq_number, eq_comm, Rect.number_eq_iff (Config.spans_of_mem_grid hgrid)]
      exact ⟨(Int.zero_add _).symm, (Int.zero_add _).symm⟩
    refine ⟨(x, y), Finset.mem_filter.2 ⟨hgrid, ?_⟩, hindex⟩
    rw [hindex]
    exact hi.2

theorem activeSprites_eq_card (h : canvas.active = some a) (hsound : canvas.Sound) :
    canvas.activeSprites =
      .ok {slot ∈ Finset.range a.config.slots | (canvas.slotted slot).isSome}.card := by
  have hsize := hsound.slots_le_size h
  have hslots : (List.range a.config.slots).map canvas.slotted =
      canvas.slots.toList.take a.config.slots := by
    refine List.ext_getElem? fun i => ?_
    by_cases hi : i < a.config.slots
    · have hi' : i < canvas.slots.size := Nat.lt_of_lt_of_le hi hsize
      simp [hi, hi', slotted]
    · rw [List.getElem?_eq_none (by simpa using hi), List.getElem?_eq_none (by simp; omega)]
  rw [activeSprites_eq h hsize, length_slotPictures h hsize, ← hslots, countP_map_range]

end Canvas

namespace Stage

/-! ### The last writes -/

/-- What a tile shows after completed commands, of which the last one stands first. -/
def lastTile (sheet : Sheet) (past : List Command) (x y : Int) : Option SpriteId :=
  (past.findSome? (Command.tileWrite sheet x y)).join

/-- What a slot shows after completed commands, of which the last one stands first. -/
def lastSprite (past : List Command) (slot : Nat) : Option Sprite :=
  (past.findSome? (Command.slotWrite slot)).join

theorem join_findSome?_cons {α β : Type} (f : α → Option (Option β)) (a : α) (as : List α) :
    ((a :: as).findSome? f).join = (f a).getD (as.findSome? f).join := by
  rw [List.findSome?_cons]
  cases f a <;> rfl

variable {δ : Type} [Device δ]

/-- The command that an event completes, if it does. -/
def Event.completed (stage : Stage δ) : Event δ → List Command
  | .command c => if c.completes stage then [c] else []
  | .device _ => []

/-- The commands that a run completes, the last one first. -/
def completed (stage : Stage δ) : List (Event δ) → List Command
  | [] => []
  | event :: events => (event.apply stage).completed events ++ event.completed stage

/-- While the canvas is set up, each tile and each slot shows what was written there last. -/
def Charted (past : List Command) (canvas : Canvas) : Prop :=
  ∀ a, canvas.active = some a →
    (∀ x y, (x, y) ∈ a.config.grid →
      canvas.stored (a.config.index x y) = lastTile canvas.sheet past x y) ∧
    ∀ slot < a.config.slots, canvas.slotted slot = lastSprite past slot

theorem Charted.of_unset {past : List Command} {canvas : Canvas} (h : canvas.active = none) :
    Charted past canvas := by
  intro a ha
  rw [h] at ha
  cases ha

variable {past : List Command} {stage : Stage δ}

theorem active_discard (stage : Stage δ) :
    (Command.discard.run.run stage).state.canvas.active = none := by
  rw [Command.run, Action.run_bind_pure]
  cases h : stage.canvas.active with
  | none =>
      obtain ⟨line, hrun⟩ := run_discard_of_unset h
      rw [hrun]
      exact h
  | some a =>
      rcases hrelease : a.resources.release.run stage.device with ⟨fault | u, d, notes⟩
      · rw [run_discard_of_fault h hrelease]
      · obtain ⟨line, hrun⟩ := run_discard_of_released h hrelease
        rw [hrun]
        rfl

/-- A canvas that is set up anew is empty; one that cannot be set up stays as it is. -/
theorem charted_setup (past : List Command) (hunset : stage.canvas.active = none) (g : Config) :
    Charted (Event.completed stage (.command (.setup g)) ++ past)
      ((Command.setup g).run.run stage).state.canvas := by
  have hstays : ∀ {result device notes}, (setup g).run stage =
      ⟨result, { stage with device := device }, notes⟩ →
      Charted (Event.completed stage (.command (.setup g)) ++ past)
        ((Command.setup g).run.run stage).state.canvas := by
    intro result device notes hrun
    refine Charted.of_unset ?_
    rw [Command.run, Action.run_map, hrun]
    exact hunset
  cases hc : g.validate with
  | error e => exact hstays (run_setup_of_invalid hunset hc)
  | ok u =>
  rcases hacquire : (ResourceSet.acquire meshLayout stage.canvas.sheet.image).run stage.device
    with ⟨fault | e | resources, device, notes⟩
  · exact hstays (run_setup_of_fault hunset hc hacquire)
  · exact hstays (run_setup_of_refused hunset hc hacquire)
  · obtain ⟨line, hrun⟩ := run_setup_of_made hunset hc hacquire
    have hdone : (Command.setup g).completes stage = true := by
      simp only [Command.completes, Command.run, Action.run_map, hrun]
      rfl
    rw [Event.completed, if_pos hdone, Command.run, Action.run_map, hrun]
    rintro a -
    exact ⟨fun x y _ => Canvas.stored_emptied stage.canvas _,
      fun slot _ => Canvas.slotted_emptied stage.canvas slot⟩

/-- What one event keeps. -/
theorem Charted.apply (h : Charted past stage.canvas) (hsound : stage.canvas.Sound)
    (hclosed : stage.canvas.sheet.Closed) (event : Event δ) :
    Charted (event.completed stage ++ past) (event.apply stage).canvas := by
  cases event with
  | device call => exact h
  | command c =>
  change Charted _ (c.run.run stage).state.canvas
  by_cases hdiscard : c = .discard
  · subst hdiscard
    exact Charted.of_unset (active_discard stage)
  cases hactive : stage.canvas.active with
  | none =>
      by_cases hsetup : ∃ g, c = .setup g
      · obtain ⟨g, rfl⟩ := hsetup
        exact charted_setup past hactive g
      · have hkeeps := active_command (fun g hg => hsetup ⟨g, hg⟩) hdiscard stage
        exact Charted.of_unset (hkeeps.trans hactive)
  | some a =>
      have hwrites := writes_command hactive hsound hclosed hdiscard
      have hkeeps := active_of_set hactive hdiscard
      have hsheet : (c.run.run stage).state.canvas.sheet = stage.canvas.sheet :=
        (follows_command c stage).sheet
      obtain ⟨htile, hslot⟩ := h a hactive
      intro b hb
      rw [hkeeps] at hb
      cases hb
      constructor
      · intro x y hgrid
        rw [hwrites.tile x y hgrid, htile x y hgrid, hsheet, Event.completed]
        split
        · exact (join_findSome?_cons _ c past).symm
        · rfl
      · intro slot hlt
        rw [hwrites.slot slot hlt, hslot slot hlt, Event.completed]
        split
        · exact (join_findSome?_cons _ c past).symm
        · rfl

/-- What a whole run keeps. -/
theorem Charted.after (h : Charted past stage.canvas) (hsound : stage.canvas.Sound)
    (hclosed : stage.canvas.sheet.Closed) (events : List (Event δ)) :
    Charted (stage.completed events ++ past) (stage.after events).canvas := by
  induction events generalizing stage past with
  | nil => exact h
  | cons event events ih =>
      have hkeeps := keeps_apply stage event
      have hclosed' : (event.apply stage).canvas.sheet.Closed := hkeeps.sheet ▸ hclosed
      rw [completed, List.append_assoc]
      exact ih (h.apply hsound hclosed event) (hkeeps.sound hsound) hclosed'

/-- A canvas over a sheet that is cut into cells answers as a plain map does. In every state of a
run in which it is set up, a tile shows what the last completed command to write it since the canvas
was set up or cleared left there, and nothing if there was none; the same holds of the slots. The
counts are the numbers of coordinates and of slots that show something. A command that does not
write a tile or a slot, or that is not completed, leaves it as it is, as listing the vertices and
rendering leave them all. The nearest column and row of any coordinates are on the grid. -/
theorem canvas_refines_map (g : GridSheet) (hg : g.Built) (device : δ) (events : List (Event δ))
    (stage : Stage δ) (hstage : (fresh g.toSheet device).after events = stage) (a : Active)
    (ha : stage.canvas.active = some a) :
    let past := (fresh g.toSheet device).completed events
    (∀ x y, (x, y) ∈ a.config.grid →
      stage.canvas.tile x y = .ok (lastTile g.toSheet past x y)) ∧
    (∀ slot < a.config.slots, stage.canvas.sprite slot = .ok (lastSprite past slot)) ∧
    stage.canvas.occupied =
      .ok {p ∈ a.config.grid | (lastTile g.toSheet past p.1 p.2).isSome}.card ∧
    stage.canvas.activeSprites =
      .ok {slot ∈ Finset.range a.config.slots | (lastSprite past slot).isSome}.card ∧
    (∀ (c : Command) (next : Canvas), c ≠ .discard → (c.run.run stage).state.canvas = next →
      next.active = some a ∧
      (∀ x y, (x, y) ∈ a.config.grid →
        (c.completes stage = true → c.tileWrite g.toSheet x y = none) →
        next.tile x y = stage.canvas.tile x y) ∧
      (∀ slot < a.config.slots, (c.completes stage = true → c.slotWrite slot = none) →
        next.sprite slot = stage.canvas.sprite slot) ∧
      (c = .updateVertices ∨ c = .render →
        next.tiles = stage.canvas.tiles ∧ next.slots = stage.canvas.slots)) ∧
    ∀ x y, ∃ x' y', stage.canvas.clampX x = .ok x' ∧ stage.canvas.clampY y = .ok y' ∧
      (∃ shown, stage.canvas.tile x' y' = .ok shown) ∧
      (0 ≤ x → x < a.config.columns → x' = x) ∧ (0 ≤ y → y < a.config.rows → y' = y) := by
  intro past
  have hsound : stage.canvas.Sound := hstage ▸ sound_after g.toSheet device events
  have hsheet : stage.canvas.sheet = g.toSheet :=
    hstage ▸ sheet_after (fresh g.toSheet device) events
  have hclosed : stage.canvas.sheet.Closed := hsheet ▸ GridSheet.closed_of_built hg
  have hvalid := (hsound.fits a ha).valid
  have hcharted : Charted past stage.canvas := by
    have hfresh : Charted [] (fresh g.toSheet device).canvas := Charted.of_unset rfl
    have hafter := hfresh.after (Canvas.sound_fresh _) (GridSheet.closed_of_built hg) events
    rw [hstage, List.append_nil] at hafter
    exact hafter
  obtain ⟨htile, hslot⟩ := hcharted a ha
  rw [hsheet] at htile
  refine ⟨?tiles, ?slots, ?occupied, ?active, ?frame, ?clamp⟩
  case tiles =>
    intro x y hgrid
    obtain ⟨⟨hx, hx'⟩, hy, hy'⟩ := Config.mem_grid.1 hgrid
    rw [Canvas.tile_of_mem ha hx hx' hy hy', htile x y hgrid]
  case slots =>
    intro slot hlt
    rw [Canvas.sprite_of_lt ha hlt, hslot slot hlt]
  case occupied =>
    rw [Canvas.occupied_eq_card ha hsound]
    congr 2
    refine Finset.filter_congr fun p hgrid => ?_
    rw [htile p.1 p.2 hgrid]
  case active =>
    rw [Canvas.activeSprites_eq_card ha hsound]
    congr 2
    refine Finset.filter_congr fun slot hlt => ?_
    rw [hslot slot (Finset.mem_range.1 hlt)]
  case frame =>
    rintro c _ hdiscard rfl
    refine ⟨active_of_set ha hdiscard, ?_, ?_, ?_⟩
    · intro x y hgrid hc
      rw [← hsheet] at hc
      exact tile_command ha hsound hclosed hdiscard hgrid hc
    · intro slot hlt hc
      exact sprite_command ha hsound hclosed hdiscard hlt hc
    · rintro (rfl | rfl)
      · obtain ⟨arena, hcells⟩ := keepsCells_updateVertices stage
        rw [hcells]
        exact ⟨rfl, rfl⟩
      · obtain ⟨arena, hcells⟩ := keepsCells_render stage
        rw [hcells]
        exact ⟨rfl, rfl⟩
  case clamp =>
    intro x y
    have hready : stage.canvas.Ready a.config := ⟨⟨a, ha, rfl⟩, hvalid, hclosed⟩
    refine ⟨_, _, hready.clampX x, hready.clampY y, ⟨_, hready.tile_nearest ⟨x, y⟩⟩, ?_, ?_⟩
    · intro hx hx'
      unfold Canvas.clampTo
      omega
    · intro hy hy'
      unfold Canvas.clampTo
      omega

/-- A sheet of two sprites, the second of which has a name. -/
def tokenSheet : GridSheet :=
  ⟨⟨2, 1, #[0, 0, 0, 0, 0, 0, 0, 0]⟩, 1, 1, 2, 1, Table.insert .empty 'o' ⟨1⟩⟩

theorem built_tokenSheet : tokenSheet.Built := by
  have hcut : GridSheet.cut tokenSheet.image 1 1 =
      .ok (.ok ⟨tokenSheet.image, 1, 1, 2, 1, .empty⟩) := rfl
  have hmap : GridSheet.map ⟨tokenSheet.image, 1, 1, 2, 1, .empty⟩ 'o' ⟨1⟩ = .ok tokenSheet := rfl
  exact .map (.cut hcut) hmap

/-- A run with a text that reaches beyond the grid and replaces a tile, and with a tile that is
refused. -/
def tokenRun : List (Event Recorder) := [
  .command (.setup ⟨3, 2, 8, 8, 1⟩),
  .command (.setTile (some ⟨0⟩) 0 0),
  .command .clear,
  .command (.setTile (some ⟨0⟩) 2 1),
  .command (.setTile (some ⟨0⟩) 1 1),
  .command (.copyText ⟨-1, 1, 3, 1⟩ ['o', '.', 'o']),
  .command (.setTile (some ⟨9⟩) 2 1),
  .command (.setSprite 0 (some ⟨1⟩) ⟨-4, 2, 9, 9⟩),
  .command .render]

theorem canvas_refines_map_tokenRun :
    let stage := (fresh tokenSheet.toSheet Recorder.fresh).after tokenRun
    stage.canvas.active = some ⟨⟨3, 2, 8, 8, 1⟩, ⟨⟨1⟩, ⟨2⟩, ⟨3⟩, ⟨4⟩⟩⟩ ∧
      (stage.canvas.tile 0 0 = .ok none ∧ stage.canvas.tile 0 1 = .ok none ∧
        stage.canvas.tile 1 1 = .ok (some ⟨1⟩) ∧ stage.canvas.tile 2 1 = .ok (some ⟨0⟩)) ∧
      stage.canvas.sprite 0 = .ok (some ⟨⟨1⟩, ⟨-4, 2, 9, 9⟩⟩) ∧
      stage.canvas.occupied = .ok 2 ∧ stage.canvas.activeSprites = .ok 1 := by
  intro stage
  have hactive : stage.canvas.active =
      some ⟨⟨3, 2, 8, 8, 1⟩, ⟨⟨1⟩, ⟨2⟩, ⟨3⟩, ⟨4⟩⟩⟩ := by decide +kernel
  obtain ⟨htile, hsprite, hoccupied, hsprites, -⟩ := canvas_refines_map tokenSheet
    built_tokenSheet Recorder.fresh tokenRun stage rfl _ hactive
  have hpast : (fresh tokenSheet.toSheet Recorder.fresh).completed tokenRun =
      [.render, .setSprite 0 (some ⟨1⟩) ⟨-4, 2, 9, 9⟩,
        .copyText ⟨-1, 1, 3, 1⟩ ['o', '.', 'o'], .setTile (some ⟨0⟩) 1 1,
        .setTile (some ⟨0⟩) 2 1, .clear, .setTile (some ⟨0⟩) 0 0,
        .setup ⟨3, 2, 8, 8, 1⟩] := by decide +kernel
  rw [hpast] at htile hsprite hoccupied hsprites
  refine ⟨hactive, ⟨?_, ?_, ?_, ?_⟩, hsprite 0 (by decide), hoccupied.trans ?_, hsprites.trans ?_⟩
  · exact htile 0 0 (by decide)
  · exact htile 0 1 (by decide)
  · exact htile 1 1 (by decide)
  · exact htile 2 1 (by decide)
  · decide +kernel
  · decide +kernel

end Stage

end Mosaic
