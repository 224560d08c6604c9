import Mosaic.Device.Recorder
import Mosaic.Proofs.Maze.Tick
import Mosaic.Proofs.Stage.Invariant

/-!
# Walks through the maze

A world wanders when it ticks again and again, and in between its canvas is used in any way that
leaves it set up: tiles are edited, the canvas is discarded and set up with another grid, or the
level is reset. Whatever the tiles show and whichever numbers are drawn, a tick moves every actor by
one pixel and keeps it in a corridor.
-/

namespace Mosaic

namespace World

variable {ρ : Type}

/-- The plays that come about when a new world, on a canvas over a grid sheet, ticks and its canvas
is used in between. -/
inductive Wandered [RandomSource ρ] : Play ρ → Prop
  | start {δ : Type} [Device δ] (random : ρ) {g : GridSheet} (hg : g.Built) (device : δ)
      (events : List (Stage.Event δ))
      (h : ((Stage.fresh g.toSheet device).after events).canvas.isValid = true) :
      Wandered ⟨.start random, ((Stage.fresh g.toSheet device).after events).canvas⟩
  | edit {δ : Type} [Device δ] {play : Play ρ} (hplay : Wandered play) (device : δ)
      (events : List (Stage.Event δ))
      (h : ((⟨play.canvas, device⟩ : Stage δ).after events).canvas.isValid = true) :
      Wandered ⟨play.world, ((⟨play.canvas, device⟩ : Stage δ).after events).canvas⟩
  | reset {play : Play ρ} (hplay : Wandered play) : Wandered (resetLevel.run play).state
  | tick {play : Play ρ} (hplay : Wandered play) : Wandered (tick.run play).state

/-- What a wandering world and its canvas keep. -/
structure Roams (play : Play ρ) : Prop where
  sound : play.canvas.Sound
  closed : play.canvas.sheet.Closed
  isValid : play.canvas.isValid = true
  actors : ∀ a ∈ play.world.actors, a.InCorridor
  count : play.world.actors.length = 4

theorem inCorridor_start (random : ρ) : ∀ a ∈ (start random).actors, a.InCorridor := by
  intro a ha
  simp only [actors, start, List.mem_cons, List.not_mem_nil, or_false] at ha
  rcases ha with rfl | rfl | rfl | rfl
  all_goals exact Actor.inCorridor_onTile (by decide +kernel)

theorem Roams.ready {play : Play ρ} (h : Roams play) : ∃ c, play.canvas.Ready c := by
  obtain ⟨a, ha⟩ := Option.isSome_iff_exists.1 h.isValid
  exact ⟨a.config, ⟨a, ha, rfl⟩, (h.sound.fits a ha).valid, h.closed⟩

/-- The canvas of a play may be used in any way that leaves it set up. -/
theorem Roams.edit {play next : Play ρ} (h : Roams play)
    (hactors : next.world.actors = play.world.actors) (hkeeps : play.canvas.Keeps next.canvas)
    (hvalid : next.canvas.isValid = true) : Roams next where
  sound := hkeeps.sound h.sound
  closed := hkeeps.sheet ▸ h.closed
  isValid := hvalid
  actors := hactors ▸ h.actors
  count := hactors ▸ h.count

theorem roams_of_keepsActive {play next : Play ρ} (h : Roams play)
    (hkeeps : play.canvas.KeepsActive next.canvas)
    (hactors : List.Forall₂ Actor.Advances play.world.actors next.world.actors) :
    Roams next where
  sound := hkeeps.sound h.sound
  closed := hkeeps.sheet ▸ h.closed
  isValid := by
    rw [Canvas.isValid, hkeeps.active]
    exact h.isValid
  actors := Actor.inCorridor_of_advances hactors
  count := hactors.length_eq.symm.trans h.count

variable [RandomSource ρ]

/-- A tick moves every actor and keeps the canvas set up. Only the number of cleared levels can
stop it. -/
theorem Roams.tick {play : Play ρ} (h : Roams play) :
    List.Forall₂ Actor.Advances play.world.actors (tick.run play).state.world.actors ∧
      play.canvas.KeepsActive (tick.run play).state.canvas ∧
      ((tick.run play).result = .ok () ∨ (tick.run play).result = .error (.overflow .add) ∧
        Bounded.Width.bits32.count ≤ play.world.levelsCleared + 1) := by
  obtain ⟨c, hready⟩ := h.ready
  have heaten := keepsActive_eaten hready
  have hfilled := keepsActive_filled (ready_eaten hready)
  obtain ⟨random, player, ghosts, hadvances, hrun⟩ := run_tick_cases hready h.actors
  rcases hrun with ⟨-, hrun⟩ | ⟨-, hcount, hrun⟩ | ⟨notes, -, -, hrun⟩
  · rw [hrun]
    exact ⟨hadvances, heaten, .inl rfl⟩
  · rw [hrun]
    exact ⟨hadvances, heaten, .inr ⟨rfl, hcount⟩⟩
  · rw [hrun]
    exact ⟨hadvances, heaten.trans hfilled, .inl rfl⟩

theorem roams_of_wandered {play : Play ρ} (h : Wandered play) : Roams play := by
  induction h with
  | start random hg device events hvalid =>
      exact {
        sound := Stage.sound_after _ device events
        closed := by
          rw [Stage.sheet_after]
          exact GridSheet.closed_of_built hg
        isValid := hvalid
        actors := inCorridor_start random
        count := rfl }
  | edit hplay device events hvalid ih =>
      exact ih.edit rfl (Stage.keeps_after ⟨_, device⟩ events) hvalid
  | @reset play hplay ih =>
      obtain ⟨c, hready⟩ := ih.ready
      obtain ⟨notes, hrun⟩ := run_resetLevel hready
      have hkeeps := keepsActive_filled hready
      have hvalid : (filled play.canvas c).isValid = true := by
        rw [Canvas.isValid, hkeeps.active]
        exact ih.isValid
      rw [hrun]
      exact ih.edit (by simp only [actors]) hkeeps.toKeeps hvalid
  | tick hplay ih => exact roams_of_keepsActive ih ih.tick.2.1 ih.tick.1

/-- However the canvas was used before, a tick moves every actor by exactly one pixel in the
direction that it has afterwards, all tiles that its square then touches are open, and it sits
between two tiles only in this direction. The tick answers as long as the number of cleared levels
can grow. -/
theorem tick_keeps_corridors {play : Play ρ} (h : Wandered play) :
    (∀ a ∈ (tick.run play).state.world.actors, a.InCorridor) ∧
      List.Forall₂ Actor.Advances play.world.actors (tick.run play).state.world.actors ∧
      (tick.run play).state.world.actors.length = 4 ∧
      ((tick.run play).result = .ok () ∨ (tick.run play).result = .error (.overflow .add) ∧
        Bounded.Width.bits32.count ≤ play.world.levelsCleared + 1) := by
  have hroams := roams_of_wandered h
  have hnext := roams_of_wandered h.tick
  obtain ⟨hadvances, -, hresult⟩ := hroams.tick
  exact ⟨hnext.actors, hadvances, hnext.count, hresult⟩

/-- A sheet with two sprites and no names. -/
def crumbSheet : GridSheet := ⟨⟨2, 1, #[0, 0, 0, 0, 0, 0, 0, 0]⟩, 1, 1, 2, 1, .empty⟩

/-- A canvas smaller than the maze, with a dot below the player and a wall on an open tile. -/
def crumbs : List (Stage.Event Recorder) := [
  .command (.setup ⟨10, 14, 8, 8, 0⟩),
  .command (.setTile (some Sprites.dot) 9 13),
  .command (.setTile (some Sprites.wall) 8 13)]

/-- A new world on a canvas of its own size. -/
def crumbPlay : Play Xoshiro :=
  ⟨.start (.ofSeed 7), ((Stage.fresh crumbSheet.toSheet Recorder.fresh).after crumbs).canvas⟩

theorem tick_keeps_corridors_crumbPlay :
    Wandered (tick.run crumbPlay).state ∧
      (∀ a ∈ (tick.run (tick.run crumbPlay).state).state.world.actors, a.InCorridor) ∧
      (tick.run (tick.run crumbPlay).state).state.world.player.pos = ⟨70, 104⟩ ∧
      (tick.run (tick.run crumbPlay).state).state.world.foodLeft = 141 := by
  have hbuilt : crumbSheet.Built := .cut (show GridSheet.cut crumbSheet.image 1 1 = _ from rfl)
  have hvalid : crumbPlay.canvas.isValid = true := by decide +kernel
  have hwandered : Wandered (tick.run crumbPlay).state :=
    .tick (.start (Xoshiro.ofSeed 7) hbuilt Recorder.fresh crumbs hvalid)
  refine ⟨hwandered, (tick_keeps_corridors hwandered).1, ?_, ?_⟩
  · decide +kernel
  · decide +kernel

end World

end Mosaic
