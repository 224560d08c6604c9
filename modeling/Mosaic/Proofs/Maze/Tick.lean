import Mosaic.Proofs.Maze.Choice

/-!
# What a tick comes to

Each part of a tick runs without a fault while the actors are in corridors and the canvas is set
up, whatever the tiles show and whichever numbers are drawn. The player first eats what it sits on
(`eaten`), then every actor is one pixel further on in a corridor (`Advances`), and only counting a
cleared level can go wrong, when the count has no room left (`run_finishLevel_of_overflow`).
-/

namespace Mosaic

/-- An actor was moved by one pixel, to a place in a corridor. -/
structure Actor.Advances (before after : Actor) : Prop where
  inCorridor : after.InCorridor
  sprite : after.sprite = before.sprite
  x : after.pos.x = before.pos.x + after.heading.delta.x
  y : after.pos.y = before.pos.y + after.heading.delta.y

theorem Actor.inCorridor_of_advances {as bs : List Actor} (h : List.Forall₂ Actor.Advances as bs) :
    ∀ b ∈ bs, b.InCorridor := by
  induction h with
  | nil => simp
  | cons hab hrest ih =>
      intro b hb
      rcases List.mem_cons.1 hb with rfl | hb
      · exact hab.inCorridor
      · exact ih b hb

namespace World

variable {ρ : Type}

/-! ### Moving -/

variable [RandomSource ρ]

/-- An actor in a corridor is moved by one pixel, unless it asks a canvas that does not answer; it
never stays where it is. -/
theorem run_advance_cases (play : Play ρ) {a : Actor} (ha : a.InCorridor) (hungry : Bool) :
    (∃ fault, options play.canvas a hungry = .error fault ∧
        (advance a hungry).run play = ⟨.error fault, play, []⟩) ∨
      ∃ b random, a.Advances b ∧
        (advance a hungry).run play = ⟨.ok b, redrawn play random, []⟩ := by
  unfold advance
  split
  · rename_i haligned
    obtain ⟨fault, hoptions, hrun⟩ | ⟨heading, random, hopen, hrun⟩ :=
      run_chooseHeading_cases play ha hungry
    · exact .inl ⟨fault, hoptions, Action.run_bind_of_error hrun _⟩
    · right
      have hturned := ha.turned haligned heading
      have hahead : Level.isOpen ({ a with heading := heading }.neighbour heading) = true := hopen
      refine ⟨_, random, ⟨hturned.stepped fun _ => hopen, rfl, rfl, rfl⟩, ?_⟩
      rw [Action.run_bind_of_silent hrun]
      dsimp only
      rw [if_pos hahead, hturned.moved_eq]
      rfl
  · rename_i haligned
    right
    have hstepped := ha.stepped fun h => absurd h haligned
    refine ⟨a.stepped, play.world.random, ⟨hstepped, rfl, rfl, rfl⟩, ?_⟩
    rw [ha.moved_eq]
    rfl

theorem run_advance {play : Play ρ} {c : Config} (h : play.canvas.Ready c) {a : Actor}
    (ha : a.InCorridor) (hungry : Bool) :
    ∃ b random, a.Advances b ∧
      (advance a hungry).run play = ⟨.ok b, redrawn play random, []⟩ := by
  obtain ⟨active, hactive, -⟩ := h.active
  refine (run_advance_cases play ha hungry).resolve_left ?_
  rintro ⟨fault, hoptions, -⟩
  rw [options_eq hactive] at hoptions
  cases hoptions

theorem run_movePlayer {play : Play ρ} {c : Config} (h : play.canvas.Ready c)
    (hplayer : play.world.player.InCorridor) :
    ∃ player random, play.world.player.Advances player ∧
      movePlayer.run play =
        ⟨.ok (), { play with world := { play.world with random := random, player := player } },
          []⟩ := by
  obtain ⟨player, random, hadvances, hrun⟩ := run_advance h hplayer true
  refine ⟨player, random, hadvances, ?_⟩
  rw [movePlayer, Action.run_get_bind, Action.run_bind_of_silent hrun]
  rfl

/-- The play with other ghosts. -/
def haunted (play : Play ρ) (random : ρ) (ghosts : List Actor) : Play ρ :=
  { play with world := { play.world with random := random, ghosts := ghosts } }

/-- The ghosts are moved from the front to the back, each in its place. -/
theorem run_moveGhosts_from {play : Play ρ} {c : Config} (h : play.canvas.Ready c)
    {ghosts : List Actor} (hghosts : ∀ ghost ∈ ghosts, ghost.InCorridor) (done : List Actor)
    (random : ρ) :
    ∃ moved last, List.Forall₂ Actor.Advances ghosts moved ∧
      (Action.each moveGhost (List.range' done.length ghosts.length)).run
          (haunted play random (done ++ ghosts)) =
        ⟨.ok (), haunted play last (done ++ moved), []⟩ := by
  induction ghosts generalizing done random with
  | nil => exact ⟨[], random, .nil, rfl⟩
  | cons ghost ghosts ih =>
      have hready : (haunted play random (done ++ ghost :: ghosts)).canvas.Ready c := h
      obtain ⟨b, drawn, hadvances, hrun⟩ :=
        run_advance hready (hghosts ghost List.mem_cons_self) false
      obtain ⟨moved, last, hmoved, hrest⟩ :=
        ih (fun g hg => hghosts g (List.mem_cons_of_mem ghost hg)) (done ++ [b]) drawn
      refine ⟨b :: moved, last, .cons hadvances hmoved, ?_⟩
      have hfirst : (moveGhost done.length).run (haunted play random (done ++ ghost :: ghosts)) =
          ⟨.ok (), haunted play drawn (done ++ b :: ghosts), []⟩ := by
        have hghost : (haunted play random (done ++ ghost :: ghosts)).world.ghosts[done.length]? =
            some ghost := by simp [haunted]
        rw [moveGhost, Action.run_get_bind]
        simp only [hghost]
        rw [Action.run_bind_of_silent hrun]
        simp [change, haunted, redrawn]
      rw [List.length_cons, List.range'_succ, Action.each_cons, Action.run_bind_of_silent hfirst]
      simpa using hrest

theorem run_moveGhosts {play : Play ρ} {c : Config} (h : play.canvas.Ready c)
    (hghosts : ∀ ghost ∈ play.world.ghosts, ghost.InCorridor) :
    ∃ ghosts random, List.Forall₂ Actor.Advances play.world.ghosts ghosts ∧
      (Action.each moveGhost (List.range play.world.ghosts.length)).run play =
        ⟨.ok (), haunted play random ghosts, []⟩ := by
  rw [List.range_eq_range']
  exact run_moveGhosts_from h hghosts [] play.world.random

omit [RandomSource ρ]

/-! ### Eating -/

/-- The player sits on a tile that shows food. -/
def Eats (play : Play ρ) (c : Config) : Prop :=
  play.world.player.aligned = true ∧
    ShowsFood (play.canvas.stored (c.nearest play.world.player.tile))

instance (play : Play ρ) (c : Config) : Decidable (Eats play c) :=
  inferInstanceAs (Decidable (_ ∧ _))

/-- The play after the player ate what it sits on. -/
def eaten (play : Play ρ) (c : Config) : Play ρ :=
  if Eats play c then
    { play with
      world := { play.world with foodLeft := play.world.foodLeft - 1 }
      canvas := play.canvas.put (c.nearest play.world.player.tile) none }
  else play

theorem onCanvas_query {α : Type} (question : Canvas → Except Fault α) :
    (onCanvas (Action.query question) : Action (Play ρ) α) =
      Action.query fun play => question play.canvas := rfl

theorem run_eat {play : Play ρ} {c : Config} (h : play.canvas.Ready c) :
    eat.run play = ⟨.ok (), eaten play c, []⟩ := by
  rw [eat, Action.run_get_bind]
  by_cases haligned : play.world.player.aligned = true
  · simp only [haligned, if_true, onCanvas_query, Action.run_query_bind, h.clampX, h.clampY,
      h.tile_nearest]
    by_cases hfood : ShowsFood (play.canvas.stored (c.nearest play.world.player.tile))
    · have hset : (onCanvas (Canvas.setTile none (Canvas.clampTo c.columns
            play.world.player.tile.x) (Canvas.clampTo c.rows play.world.player.tile.y))).run play =
          ⟨.ok (), { play with canvas := play.canvas.put (c.nearest play.world.player.tile) none },
            []⟩ := by
        rw [onCanvas, Action.run_part, Canvas.run_setTile_of_ok (h.tileIndex_nearest _) rfl]
      rw [if_pos hfood, Action.run_bind_of_silent hset, eaten, if_pos ⟨haligned, hfood⟩]
      rfl
    · have heaten : eaten play c = play := if_neg fun heats => hfood heats.2
      rw [if_neg hfood, heaten]
      rfl
  · have heaten : eaten play c = play := if_neg fun heats => haligned heats.1
    rw [if_neg haligned, heaten]
    rfl

/-! ### Clearing a level -/

/-- The canvas after the level was copied to it. -/
def filled (canvas : Canvas) (c : Config) : Canvas :=
  ((Canvas.copyAll (Canvas.blockAt c ⟨0, 0, Level.columns, Level.rows⟩)
    Level.text.zipIdx).run canvas).state

theorem run_resetLevel {play : Play ρ} {c : Config} (h : play.canvas.Ready c) :
    ∃ notes, resetLevel.run play =
      ⟨.ok (), ⟨{ play.world with foodLeft := Level.food }, filled play.canvas c⟩, notes⟩ := by
  obtain ⟨a, ha, rfl⟩ := h.active
  have hsize : 0 ≤ (Rect.mk 0 0 Level.columns Level.rows).width ∧
      0 ≤ (Rect.mk 0 0 Level.columns Level.rows).height := by decide
  obtain ⟨notes, hrun⟩ := Canvas.run_copyText_of_length ha hsize Level.length_text
  rw [Canvas.copyAll_result_of_closed h.closed] at hrun
  have hcopy : (onCanvas (Canvas.copyText ⟨0, 0, Level.columns, Level.rows⟩ Level.text)).run play =
      ⟨.ok (), { play with canvas := filled play.canvas a.config }, notes⟩ := by
    rw [onCanvas, Action.run_part, hrun]
    rfl
  rw [resetLevel, Action.run_bind_of_ok hcopy]
  exact ⟨_, rfl⟩

theorem run_finishLevel_of_left {play : Play ρ} (h : play.world.foodLeft ≠ 0) :
    finishLevel.run play = ⟨.ok (), play, []⟩ := by
  rw [finishLevel, Action.run_get_bind, if_neg h]
  rfl

theorem run_finishLevel_of_overflow {play : Play ρ} (h : play.world.foodLeft = 0)
    (hcount : Bounded.Width.bits32.count ≤ play.world.levelsCleared + 1) :
    finishLevel.run play = ⟨.error (.overflow .add), play, []⟩ := by
  rw [finishLevel, Action.run_get_bind, if_pos h]
  simp only [Action.run_ofExcept_bind, Bounded.add, Bounded.unsigned, Nat.not_lt.2 hcount, if_false]

theorem run_finishLevel_of_cleared {play : Play ρ} {c : Config} (hready : play.canvas.Ready c)
    (h : play.world.foodLeft = 0)
    (hcount : play.world.levelsCleared + 1 < Bounded.Width.bits32.count) :
    ∃ notes, finishLevel.run play =
      ⟨.ok (), ⟨{ play.world with
          foodLeft := Level.food, levelsCleared := play.world.levelsCleared + 1 },
        filled play.canvas c⟩, notes⟩ := by
  rw [finishLevel, Action.run_get_bind, if_pos h]
  simp only [Action.run_ofExcept_bind, Bounded.add, Bounded.unsigned_of_lt hcount, change,
    Action.run_modify_bind]
  have hnext : ({ play with world := { play.world with
      levelsCleared := play.world.levelsCleared + 1 } } : Play ρ).canvas.Ready c := hready
  exact run_resetLevel hnext

/-! ### A whole tick -/

/-- The play with the actors moved on. -/
def moved (play : Play ρ) (random : ρ) (player : Actor) (ghosts : List Actor) : Play ρ :=
  { play with
    world := { play.world with random := random, player := player, ghosts := ghosts } }

theorem eaten_actors (play : Play ρ) (c : Config) :
    (eaten play c).world.actors = play.world.actors := by
  unfold eaten
  split <;> rfl

theorem eaten_levelsCleared (play : Play ρ) (c : Config) :
    (eaten play c).world.levelsCleared = play.world.levelsCleared := by
  unfold eaten
  split <;> rfl

theorem ready_put {canvas : Canvas} {c : Config} (h : canvas.Ready c) (i : Nat)
    (sprite : Option SpriteId) : (canvas.put i sprite).Ready c := ⟨h.active, h.valid, h.closed⟩

theorem ready_eaten {play : Play ρ} {c : Config} (h : play.canvas.Ready c) :
    (eaten play c).canvas.Ready c := by
  unfold eaten
  split
  · exact ready_put h _ none
  · exact h

/-- Copying the level and eating leave the canvas set up as it is. -/
theorem keepsActive_filled {canvas : Canvas} {c : Config} (h : canvas.Ready c) :
    canvas.KeepsActive (filled canvas c) := by
  obtain ⟨a, ha, rfl⟩ := h.active
  exact Canvas.keepsActive_copyAll ha _ _

theorem keepsActive_eaten {play : Play ρ} {c : Config} (h : play.canvas.Ready c) :
    play.canvas.KeepsActive (eaten play c).canvas := by
  unfold eaten
  split
  · refine ⟨⟨rfl, fun hsound => ?_⟩, rfl⟩
    refine Canvas.sound_put hsound ?_ (by simp)
    obtain ⟨a, ha, rfl⟩ := h.active
    intro b hb
    rw [ha] at hb
    cases hb
    exact Canvas.nearest_lt_cells h.valid _
  · exact ⟨refl_of Canvas.Keeps _, rfl⟩

variable [RandomSource ρ]

/-- A tick is the player's meal, a pixel for each actor, and the end of the level if the food is
gone. -/
theorem run_tick {play : Play ρ} {c : Config} (h : play.canvas.Ready c)
    (hactors : ∀ a ∈ play.world.actors, a.InCorridor) :
    ∃ random player ghosts,
      List.Forall₂ Actor.Advances play.world.actors (player :: ghosts) ∧
        tick.run play = finishLevel.run (moved (eaten play c) random player ghosts) := by
  have hready := ready_eaten h
  have hactors' := (eaten_actors play c).symm ▸ hactors
  obtain ⟨player, drawn, hplayer, hrun⟩ := run_movePlayer hready
    (hactors' _ List.mem_cons_self)
  let next : Play ρ := { eaten play c with
    world := { (eaten play c).world with random := drawn, player := player } }
  have hnext : next.canvas.Ready c := hready
  obtain ⟨ghosts, random, hghosts, hrest⟩ := run_moveGhosts hnext fun ghost hghost =>
    hactors' ghost (List.mem_cons_of_mem _ hghost)
  refine ⟨random, player, ghosts, ?_, ?_⟩
  · rw [← eaten_actors play c]
    exact .cons hplayer hghosts
  · rw [tick, Action.run_bind_of_silent (run_eat h), Action.run_bind_of_silent hrun,
      Action.run_get_bind, Action.run_bind_of_silent hrest]
    rfl

/-- A tick leaves the level as it is while there is food. Without food it starts the next one,
unless the number of cleared levels cannot grow any more. -/
theorem run_tick_cases {play : Play ρ} {c : Config} (h : play.canvas.Ready c)
    (hactors : ∀ a ∈ play.world.actors, a.InCorridor) :
    ∃ random player ghosts,
      List.Forall₂ Actor.Advances play.world.actors (player :: ghosts) ∧
        (((eaten play c).world.foodLeft ≠ 0 ∧
            tick.run play = ⟨.ok (), moved (eaten play c) random player ghosts, []⟩) ∨
          ((eaten play c).world.foodLeft = 0 ∧
            Bounded.Width.bits32.count ≤ play.world.levelsCleared + 1 ∧
            tick.run play =
              ⟨.error (.overflow .add), moved (eaten play c) random player ghosts, []⟩) ∨
          ∃ notes, (eaten play c).world.foodLeft = 0 ∧
            play.world.levelsCleared + 1 < Bounded.Width.bits32.count ∧
            tick.run play =
              ⟨.ok (), ⟨⟨random, player, ghosts, Level.food, play.world.levelsCleared + 1⟩,
                filled (eaten play c).canvas c⟩, notes⟩) := by
  obtain ⟨random, player, ghosts, hadvances, hrun⟩ := run_tick h hactors
  have hready : (moved (eaten play c) random player ghosts).canvas.Ready c := ready_eaten h
  have hcleared := eaten_levelsCleared play c
  refine ⟨random, player, ghosts, hadvances, ?_⟩
  rw [hrun]
  by_cases hleft : (eaten play c).world.foodLeft = 0
  · right
    by_cases hcount : play.world.levelsCleared + 1 < Bounded.Width.bits32.count
    · right
      rw [← hcleared] at hcount ⊢
      obtain ⟨notes, hfinish⟩ := run_finishLevel_of_cleared hready hleft hcount
      exact ⟨notes, hleft, hcount, hfinish⟩
    · left
      rw [← hcleared] at hcount
      have hfull := Nat.not_lt.1 hcount
      exact ⟨hleft, hcleared ▸ hfull, run_finishLevel_of_overflow hleft hfull⟩
  · left
    exact ⟨hleft, run_finishLevel_of_left hleft⟩

end World

end Mosaic
