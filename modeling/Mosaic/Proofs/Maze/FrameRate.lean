import Mosaic.Proofs.Maze.Pace
import Mosaic.Proofs.Stage.Layout

/-!
# Games at any frame rate

A match is `Running` from when it begins on a canvas that is set up for it, through frames that
answer and through renders between them. It may begin again on another canvas. Whatever the lengths
of its frames, its speed is the same: the ticks up to a time are those that the time makes up
(`Game.speed_of_running`).
-/

namespace Mosaic

namespace Game

variable {ρ : Type}

/-! ### Running matches -/

/-- The canvases over the sheet of the maze that are set up with a configuration, however they were
used before. -/
inductive Prepared (c : Config) : Canvas → Prop
  | intro {δ : Type} [Device δ] (device : δ) {g : GridSheet} (hg : Sprites.sheet = .ok (.ok g))
      (events : List (Stage.Event δ)) {a : Active}
      (h : ((Stage.fresh g.toSheet device).after events).canvas.active = some a)
      (hconfig : a.config = c) : Prepared c ((Stage.fresh g.toSheet device).after events).canvas

variable [RandomSource ρ]

/-- The matches that come about when a new game, or one that was running on another canvas, begins
on a canvas with its configuration, and passes frames and is rendered. -/
inductive Running : Match ρ → Prop
  | start (random : ρ) {canvas : Canvas} (h : Prepared (Game.start random).config canvas) :
      Running (begin.run ⟨.start random, canvas⟩).state
  | restart {m : Match ρ} (hm : Running m) {canvas : Canvas} (h : Prepared m.game.config canvas) :
      Running (begin.run ⟨m.game, canvas⟩).state
  | frame {m : Match ρ} (hm : Running m) (elapsed : Nat)
      (h : ((frame elapsed).run m).result = .ok ()) : Running ((frame elapsed).run m).state
  | render {m : Match ρ} (hm : Running m) {δ : Type} [Device δ] (device : δ) :
      Running ⟨m.game, (Stage.render.run ⟨m.canvas, device⟩).state.canvas⟩

/-- A match whose stage is set, whose actors are in their slots, and which has less time left than a
tick takes. -/
structure Paced (m : Match ρ) : Prop where
  staged : World.Staged m.play
  shown : World.synced m.play = m.play
  pending : m.game.pending < tickTime

omit [RandomSource ρ] in
theorem paced_synced {play : Play ρ} (h : World.Staged play) {pending : Nat}
    (hpending : pending < tickTime) : Paced ((World.synced play).toMatch pending) :=
  ⟨h.synced, World.synced_of_samePlay (World.samePlay_synced play), hpending⟩

omit [RandomSource ρ] in
/-- A level that was just copied is a stage for the actors. -/
theorem staged_filled {world : World ρ} {canvas : Canvas} {g : GridSheet}
    (hg : Sprites.sheet = .ok (.ok g)) (hsheet : canvas.sheet = g.toSheet) (hsound : canvas.Sound)
    (hready : canvas.Ready World.mazeConfig) (hactors : ∀ a ∈ world.actors, a.InCorridor)
    (hcast : world.actors.map Actor.sprite = World.cast) (hfood : world.foodLeft = Level.food) :
    World.Staged ⟨world, World.filled canvas World.mazeConfig⟩ := by
  refine ⟨World.stocked_filled hsound hready ?_ hactors hfood, hcast, ?_⟩
  · rw [hsheet]
    exact Level.sprite?_of_sheet hg
  · change ∀ id ∈ World.cast, (World.filled canvas World.mazeConfig).sheet.Contains id
    rw [(World.keepsActive_filled hready).sheet, hsheet]
    simp only [Sheet.Contains, Level.count_of_sheet hg]
    decide

omit [RandomSource ρ] in
theorem paced_begin {game : Game ρ} {canvas : Canvas} (h : Prepared World.mazeConfig canvas)
    (hactors : ∀ a ∈ game.world.actors, a.InCorridor)
    (hcast : game.world.actors.map Actor.sprite = World.cast) (hpending : game.pending < tickTime) :
    Paced (begin.run ⟨game, canvas⟩).state := by
  cases h with
  | @intro δ _ device g hg events a hactive hconfig =>
  have hsheet := Stage.sheet_after (Stage.fresh g.toSheet device) events
  have hsound := Stage.sound_after g.toSheet device events
  generalize ((Stage.fresh g.toSheet device).after events).canvas = canvas at *
  have hready : canvas.Ready World.mazeConfig := by
    refine ⟨⟨a, hactive, hconfig⟩, World.valid_mazeConfig, ?_⟩
    rw [hsheet]
    exact Level.closed_of_sheet hg
  have hplay : (Play.mk game.world canvas).canvas.Ready World.mazeConfig := hready
  obtain ⟨world, notes, hworld, hfood, hrun⟩ : ∃ world notes,
      world.actors = game.world.actors ∧ world.foodLeft = Level.food ∧
        World.resetLevel.run ⟨game.world, canvas⟩ =
          ⟨.ok (), ⟨world, World.filled canvas World.mazeConfig⟩, notes⟩ := by
    obtain ⟨notes, hrun⟩ := World.run_resetLevel hplay
    exact ⟨_, notes, by simp only [World.actors], by simp only, hrun⟩
  have hstaged := staged_filled hg hsheet hsound hready (hworld.symm ▸ hactors)
    (hworld.symm ▸ hcast) hfood
  have hreset := run_onPlay World.resetLevel ⟨game.world, canvas⟩ game.pending
  rw [hrun] at hreset
  have hbegin : (begin.run ⟨game, canvas⟩).state = (World.synced
      ⟨world, World.filled canvas World.mazeConfig⟩).toMatch game.pending := by
    change ((onPlay World.resetLevel >>= fun _ => onPlay World.sync).run
      ((Play.mk game.world canvas).toMatch game.pending)).state = _
    rw [Action.run_bind_of_ok hreset, run_onPlay, hstaged.run_sync]
  rw [hbegin]
  exact paced_synced hstaged hpending

/-- A frame that answers leaves a match that keeps the pace. -/
theorem Paced.frame {m : Match ρ} (h : Paced m) (elapsed : Nat)
    (hok : ((frame elapsed).run m).result = .ok ()) : Paced ((frame elapsed).run m).state := by
  obtain ⟨rest, hframe, hrest⟩ := run_frame elapsed m.game.pending m.play
  change (Game.frame elapsed).run m = _ at hframe
  obtain ⟨next, notes, hnext, -, hrun⟩ | ⟨next, notes, -, -, hrun⟩ :=
    run_ticksThenSync h.staged (ticksIn m.game.pending elapsed)
  · rw [hrun] at hframe hrest
    rw [hframe, hrest rfl]
    exact paced_synced hnext (leftBy_lt _ _)
  · rw [hrun] at hframe
    rw [hframe] at hok
    cases hok

omit [RandomSource ρ] in
theorem Paced.render {m : Match ρ} (h : Paced m) {δ : Type} [Device δ] (device : δ) :
    Paced ⟨m.game, (Stage.render.run ⟨m.canvas, device⟩).state.canvas⟩ := by
  have hkeeps := Stage.follows_render (⟨m.canvas, device⟩ : Stage δ)
  have hsame := Stage.sameTiles_render (⟨m.canvas, device⟩ : Stage δ)
  obtain ⟨arena, hcells⟩ := Stage.follows_keepsCells_render (⟨m.canvas, device⟩ : Stage δ)
  have hstocked : World.Stocked ⟨m.game.world, _⟩ := h.staged.stocked.of_sameTiles hkeeps hsame
  rw [hcells] at hstocked ⊢
  refine ⟨⟨hstocked, h.staged.cast, h.staged.onSheet⟩, ?_, h.pending⟩
  exact congrArg (fun play : Play ρ => { play with canvas := { play.canvas with arena := arena } })
    h.shown

theorem paced_of_running {m : Match ρ} (h : Running m) : Paced m := by
  induction h with
  | start random hprepared =>
      exact paced_begin hprepared (World.inCorridor_start random) rfl (Nat.pos_of_ne_zero (by decide))
  | @restart m hm canvas hprepared ih =>
      have hconfig : m.game.config = World.mazeConfig := by
        have hlength : m.game.world.actors.length = 4 := ih.staged.length_actors
        rw [Game.config, World.slots, hlength]
        rfl
      exact paced_begin (hconfig ▸ hprepared) ih.staged.stocked.actors ih.staged.cast ih.pending
  | frame hm elapsed hok ih => exact ih.frame elapsed hok
  | render hm device ih => exact ih.render device

/-! ### The speed of a game -/

/-- The slots show the player and the three ghosts in this order, each where it is and as large as a
tile, and nothing else. -/
structure ShowsActors (m : Match ρ) : Prop where
  cast : m.game.world.actors.map Actor.sprite =
    [Sprites.player, Sprites.redGhost, Sprites.pinkGhost, Sprites.cyanGhost]
  slots : ∀ i a, m.game.world.actors[i]? = some a →
    m.canvas.sprite i = .ok (some ⟨a.sprite, ⟨a.pos.x, a.pos.y, 8, 8⟩⟩)
  others : m.canvas.activeSprites = .ok 4

omit [RandomSource ρ] in
theorem Paced.showsActors {m : Match ρ} (h : Paced m) : ShowsActors m := by
  obtain ⟨a, ha, hconfig⟩ := h.staged.stocked.ready.active
  change m.canvas.active = some a at ha
  have hlength : m.game.world.actors.length = 4 := h.staged.length_actors
  have hslots : a.config.slots = 4 := by
    rw [hconfig]
    rfl
  have hshown : m.canvas.slots.toList = m.game.world.actors.map Actor.picture ++
      List.replicate (Limits.slots - m.game.world.slots) none := by
    have hcanvas := congrArg (fun play : Play ρ => play.canvas.slots.toList) h.shown
    exact hcanvas.symm
  refine ⟨h.staged.cast, fun i b hi => ?_, ?_⟩
  · have hlt : i < m.game.world.actors.length := (List.getElem?_eq_some_iff.1 hi).1
    have hpicture : m.canvas.slots[i]? = some b.picture := by
      rw [← Array.getElem?_toList, hshown,
        List.getElem?_append_left (by rwa [List.length_map]), List.getElem?_map, hi]
      rfl
    rw [Canvas.sprite_of_lt ha (by omega), Canvas.slotted, hpicture]
    rfl
  · have hcount : (m.game.world.actors.map Actor.picture).countP Option.isSome = 4 := by
      rw [List.countP_map, ← hlength]
      exact List.countP_eq_length.2 fun a ha => rfl
    rw [Canvas.activeSprites, Canvas.config_of_active ha]
    change Except.ok ((m.canvas.slots.toList.take a.config.slots).countP Option.isSome) = _
    rw [hshown, hslots, List.take_left' (by rw [List.length_map, hlength]), hcount]

theorem Paced.frames {m : Match ρ} (h : Paced m) (elapsed : List Nat) :
    ((frames elapsed).run m).result =
        ((World.ticks (ticksOver m.game.pending elapsed)).run m.play).result ∧
      (((World.ticks (ticksOver m.game.pending elapsed)).run m.play).result = .ok () →
        ((Game.frames elapsed).run m).state =
          (World.synced ((World.ticks (ticksOver m.game.pending elapsed)).run m.play).state).toMatch
            (leftOver m.game.pending elapsed)) :=
  run_frames h.staged h.shown m.game.pending elapsed

/-- A game at any moment between two frames has less time left than a tick takes and shows its
actors. The next frame is as many ticks as its time makes up, but not more than eight, and stops only
when the number of cleared levels cannot grow. A row of frames is the ticks of all of them; without
a frame of eight ticks they are those of the whole time, so that two such rows of the same length
come to the same, with the same world, tiles, slots and time left. -/
theorem speed_of_running {m : Match ρ} (h : Running m) :
    m.game.pending < tickTime ∧ ShowsActors m ∧
      (∀ elapsed, ∃ rest, (frame elapsed).run m =
          ⟨((ticksThenSync (ticksIn m.game.pending elapsed)).run m.play).result,
            ((ticksThenSync (ticksIn m.game.pending elapsed)).run m.play).state.toMatch rest,
            ((ticksThenSync (ticksIn m.game.pending elapsed)).run m.play).notes⟩ ∧
        (((frame elapsed).run m).result = .ok () ∧ rest = leftBy m.game.pending elapsed ∨
          ((frame elapsed).run m).result = .error (.overflow .add) ∧
            Bounded.Width.bits32.count ≤
              ((frame elapsed).run m).state.game.world.levelsCleared + 1)) ∧
      (∀ elapsed,
        ((frames elapsed).run m).result =
            ((World.ticks (ticksOver m.game.pending elapsed)).run m.play).result ∧
          (((frames elapsed).run m).result = .ok () → ((frames elapsed).run m).state =
            (World.synced ((World.ticks (ticksOver m.game.pending elapsed)).run m.play).state).toMatch
              (leftOver m.game.pending elapsed))) ∧
      (∀ elapsed, Uncapped m.game.pending elapsed →
        ticksOver m.game.pending elapsed = (m.game.pending + elapsed.sum) / tickTime ∧
          leftOver m.game.pending elapsed = (m.game.pending + elapsed.sum) % tickTime) ∧
      ∀ first second, Uncapped m.game.pending first → Uncapped m.game.pending second →
        first.sum = second.sum →
          ((frames first).run m).result = ((frames second).run m).result ∧
            (((frames first).run m).result = .ok () →
              ((frames first).run m).state = ((frames second).run m).state) := by
  have hpaced := paced_of_running h
  refine ⟨hpaced.pending, hpaced.showsActors, fun elapsed => ?_, fun elapsed => ?_,
    fun elapsed huncapped => ticksOver_of_uncapped huncapped hpaced.pending,
    fun first second hfirst hsecond hsum => ?_⟩
  · obtain ⟨rest, hframe, hrest⟩ := run_frame elapsed m.game.pending m.play
    refine ⟨rest, hframe, ?_⟩
    change (frame elapsed).run m = _ at hframe
    rw [hframe]
    obtain ⟨next, notes, -, -, hrun⟩ | ⟨next, notes, hcount, -, hrun⟩ :=
      run_ticksThenSync hpaced.staged (ticksIn m.game.pending elapsed)
    · rw [hrun] at hrest ⊢
      exact .inl ⟨rfl, hrest rfl⟩
    · rw [hrun]
      exact .inr ⟨rfl, hcount⟩
  · obtain ⟨hresult, hstate⟩ := hpaced.frames elapsed
    exact ⟨hresult, fun hok => hstate (hresult ▸ hok)⟩
  · obtain ⟨hticks, hleft⟩ := ticksOver_of_uncapped hfirst hpaced.pending
    obtain ⟨hticks', hleft'⟩ := ticksOver_of_uncapped hsecond hpaced.pending
    obtain ⟨hresult, hstate⟩ := hpaced.frames first
    obtain ⟨hresult', hstate'⟩ := hpaced.frames second
    rw [hticks', hleft', ← hsum, ← hticks, ← hleft] at hstate'
    rw [hticks', ← hsum, ← hticks] at hresult'
    refine ⟨hresult.trans hresult'.symm, fun hok => ?_⟩
    rw [hresult] at hok
    exact (hstate hok).trans (hstate' hok).symm

/-- What a canvas was used for before it is set up for the maze. -/
def pastLife : List (Stage.Event Recorder) := [
  .command (.setup ⟨3, 2, 8, 8, 1⟩),
  .command (.setTile (some Sprites.dot) 1 1),
  .command .discard,
  .command (.setup World.mazeConfig)]

/-- A new game on a canvas with a past. -/
def newMatch : Match Xoshiro :=
  (begin.run ⟨.start (.ofSeed 7),
    ((Stage.fresh Session.gameSheet.toSheet Recorder.fresh).after pastLife).canvas⟩).state

theorem speed_of_running_newMatch :
    Running newMatch ∧
      ticksOver newMatch.game.pending [10000000, 10000000] = 1 ∧
      ((frames [10000000, 10000000]).run newMatch).result = .ok () ∧
      ((frames [10000000, 10000000]).run newMatch).state =
        ((frames [20000000]).run newMatch).state := by
  have hsheet : Sprites.sheet = .ok (.ok Session.gameSheet) := by
    obtain ⟨bytes, h⟩ := Sprites.exists_sheet
    rw [Session.gameSheet, h]
    rfl
  have hactive :
      ((Stage.fresh Session.gameSheet.toSheet Recorder.fresh).after pastLife).canvas.active =
        some ⟨World.mazeConfig, ⟨⟨5⟩, ⟨6⟩, ⟨7⟩, ⟨8⟩⟩⟩ := by decide +kernel
  have hrunning : Running newMatch :=
    .start (Xoshiro.ofSeed 7) (.intro Recorder.fresh hsheet pastLife hactive rfl)
  have hpending : newMatch.game.pending = 0 := by decide +kernel
  have hcleared : newMatch.play.world.levelsCleared = 0 := by decide +kernel
  have htick : (World.tick.run newMatch.play).result = .ok () := by
    obtain ⟨hok, -⟩ | ⟨-, hcount⟩ := (paced_of_running hrunning).staged.stocked.tick
    · exact hok
    · rw [hcleared] at hcount
      exact absurd hcount (by decide)
  have hticks : ticksOver newMatch.game.pending [10000000, 10000000] = 1 := by
    rw [hpending]
    decide
  obtain ⟨-, -, -, hframes, -, hsame⟩ := speed_of_running hrunning
  have hok : ((frames [10000000, 10000000]).run newMatch).result = .ok () := by
    rw [(hframes _).1, hticks, World.ticks_one, htick]
  obtain ⟨-, hstate⟩ := hsame [10000000, 10000000] [20000000]
    (by rw [hpending]; decide) (by rw [hpending]; decide) rfl
  exact ⟨hrunning, hticks, hok, hstate hok⟩

end Game

end Mosaic
