import Mosaic.Proofs.Maze.Walk

/-!
# Turns

How an actor of a world turns when the world has ticked before, each time on a canvas of any kind:
one that is not set up, one of another size, one that shows anything. A tick that stops half way
counts as well. In such a world every actor is in a corridor (`Ticked.inCorridor`), so in a dead end
it can turn back, and elsewhere the number that it draws picks one of the directions that it may
choose (`chooses_among_candidates`).
-/

namespace Mosaic

namespace World

variable {ρ : Type}

/-- If the actors were in corridors before, they are in corridors afterwards. -/
def StaysInCorridors (before after : Play ρ) : Prop :=
  (∀ a ∈ before.world.actors, a.InCorridor) → ∀ a ∈ after.world.actors, a.InCorridor

instance : IsPreorder (Play ρ) StaysInCorridors where
  refl _ := id
  trans _ _ _ h h' := h' ∘ h

theorem staysInCorridors_change {f : World ρ → World ρ}
    (h : ∀ world, (f world).actors = world.actors) :
    Action.Follows StaysInCorridors (change f) :=
  Action.follows_modify fun play hactors => by rwa [h play.world]

theorem staysInCorridors_onCanvas {α : Type} (action : Action Canvas α) :
    Action.Follows StaysInCorridors (onCanvas action : Action (Play ρ) α) :=
  fun _ hactors => hactors

theorem staysInCorridors_resetLevel :
    Action.Follows StaysInCorridors (resetLevel : Action (Play ρ) Unit) := by
  refine Action.follows_bind (staysInCorridors_onCanvas _) fun _ => ?_
  refine Action.follows_bind (staysInCorridors_change fun _ => ?_) fun _ => ?_
  · simp only [actors]
  · exact Action.follows_log _ _

theorem staysInCorridors_eat : Action.Follows StaysInCorridors (eat : Action (Play ρ) Unit) := by
  refine Action.follows_bind Action.follows_get fun play => ?_
  dsimp only
  split
  · refine Action.follows_bind (staysInCorridors_onCanvas _) fun x => ?_
    refine Action.follows_bind (staysInCorridors_onCanvas _) fun y => ?_
    refine Action.follows_bind (staysInCorridors_onCanvas _) fun sprite => ?_
    split
    · exact Action.follows_bind (staysInCorridors_onCanvas _) fun _ =>
        staysInCorridors_change fun _ => rfl
    · exact Action.follows_pure _
  · exact Action.follows_pure _

theorem staysInCorridors_finishLevel :
    Action.Follows StaysInCorridors (finishLevel : Action (Play ρ) Unit) := by
  refine Action.follows_bind Action.follows_get fun play => ?_
  split
  · refine Action.follows_bind (Action.follows_ofExcept _) fun cleared => ?_
    exact Action.follows_bind (staysInCorridors_change fun _ => rfl) fun _ =>
      staysInCorridors_resetLevel
  · exact Action.follows_pure _

variable [RandomSource ρ]

theorem staysInCorridors_movePlayer :
    Action.Follows StaysInCorridors (movePlayer : Action (Play ρ) Unit) := by
  intro play hactors
  have hplayer := hactors play.world.player List.mem_cons_self
  rw [movePlayer, Action.run_get_bind]
  obtain ⟨fault, -, hrun⟩ | ⟨player, random, hadvances, hrun⟩ :=
    run_advance_cases play hplayer true
  · rw [Action.run_bind_of_error hrun]
    exact hactors
  · rw [Action.run_bind_of_silent hrun]
    intro a ha
    rcases List.mem_cons.1 ha with rfl | hghost
    · exact hadvances.inCorridor
    · exact hactors a (List.mem_cons_of_mem _ hghost)

theorem staysInCorridors_moveGhost (i : Nat) :
    Action.Follows StaysInCorridors (moveGhost i : Action (Play ρ) Unit) := by
  intro play hactors
  rw [moveGhost, Action.run_get_bind]
  cases hghost : play.world.ghosts[i]? with
  | none => exact hactors
  | some ghost =>
      have hmem : ghost ∈ play.world.actors :=
        List.mem_cons_of_mem _ (List.mem_of_getElem? hghost)
      dsimp only
      obtain ⟨fault, -, hrun⟩ | ⟨moved, random, hadvances, hrun⟩ :=
        run_advance_cases play (hactors ghost hmem) false
      · rw [Action.run_bind_of_error hrun]
        exact hactors
      · rw [Action.run_bind_of_silent hrun]
        intro a ha
        rcases List.mem_cons.1 ha with rfl | hset
        · exact hactors _ List.mem_cons_self
        · rcases List.mem_or_eq_of_mem_set hset with hold | rfl
          · exact hactors a (List.mem_cons_of_mem _ hold)
          · exact hadvances.inCorridor

/-- A tick on any canvas, whether it comes to its end or stops, leaves the actors in corridors. -/
theorem staysInCorridors_tick :
    Action.Follows StaysInCorridors (tick : Action (Play ρ) Unit) := by
  refine Action.follows_bind staysInCorridors_eat fun _ => ?_
  refine Action.follows_bind staysInCorridors_movePlayer fun _ => ?_
  refine Action.follows_bind Action.follows_get fun play => ?_
  exact Action.follows_bind (Action.follows_each fun i _ => staysInCorridors_moveGhost i)
    fun _ => staysInCorridors_finishLevel

/-- The worlds that come about from a new one by ticks and resets, each on a canvas of its own. -/
inductive Ticked : World ρ → Prop
  | start (random : ρ) : Ticked (.start random)
  | reset {world : World ρ} (h : Ticked world) (canvas : Canvas) :
      Ticked (resetLevel.run ⟨world, canvas⟩).state.world
  | tick {world : World ρ} (h : Ticked world) (canvas : Canvas) :
      Ticked (tick.run ⟨world, canvas⟩).state.world

theorem Ticked.inCorridor {world : World ρ} (h : Ticked world) :
    ∀ a ∈ world.actors, a.InCorridor := by
  induction h with
  | start random => exact inCorridor_start random
  | reset _ canvas ih => exact staysInCorridors_resetLevel ⟨_, canvas⟩ ih
  | tick _ canvas ih => exact staysInCorridors_tick ⟨_, canvas⟩ ih

theorem Ticked.iterate {world : World ρ} (h : Ticked world) (canvas : Canvas) (n : Nat) :
    Ticked ((fun world => (World.tick.run ⟨world, canvas⟩).state.world)^[n] world) := by
  induction n with
  | zero => exact h
  | succ n ih =>
      rw [Function.iterate_succ_apply']
      exact ih.tick canvas

/-- In a world that came about by ticks, every actor chooses its direction on every canvas that is
set up, whatever its size is and whatever it shows. In a dead end the actor turns back, to a tile
that is open, and draws no number. Elsewhere it draws one number, and each direction that it may
choose belongs to exactly one number: each candidate, or, for a hungry actor and where one of them
leads to food, each candidate that does. -/
theorem chooses_among_candidates {δ : Type} [Device δ] {world : World ρ} (h : Ticked world)
    {a : Actor} (ha : a ∈ world.actors) (hungry : Bool) (sheet : Sheet) (device : δ)
    (events : List (Stage.Event δ)) {canvas : Canvas}
    (hcanvas : ((Stage.fresh sheet device).after events).canvas = canvas)
    (hvalid : canvas.isValid = true) :
    ((¬ ∃ heading, a.Candidate heading) →
      Level.isOpen (a.neighbour a.heading.reverse) = true ∧
        ∀ source : RandomSource ρ, (@chooseHeading ρ source a hungry).run ⟨world, canvas⟩ =
          ⟨.ok a.heading.reverse, ⟨world, canvas⟩, []⟩) ∧
      ((∃ heading, a.Candidate heading) →
        ∃ (last : Nat) (pick : Fin (last + 1) → Heading), Function.Injective pick ∧
          (∀ heading, (∃ i, pick i = heading) ↔ a.Choosable canvas hungry heading) ∧
          ∀ source : RandomSource ρ, (@chooseHeading ρ source a hungry).run ⟨world, canvas⟩ =
            ⟨.ok (pick (source.draw last world.random).1),
              redrawn ⟨world, canvas⟩ (source.draw last world.random).2, []⟩) := by
  obtain ⟨active, hactive⟩ := Option.isSome_iff_exists.1 hvalid
  have hsound : canvas.Sound := hcanvas ▸ Stage.sound_after sheet device events
  have hconfig := (hsound.fits active hactive).valid
  constructor
  · intro hend
    refine ⟨(h.inCorridor a ha).isOpen_reverse hend, fun source => ?_⟩
    refine run_chooseHeading_of_nil ?_
    have hnone : choices canvas active.config a hungry = [] := by
      refine List.eq_nil_iff_forall_not_mem.2 fun heading hmem => ?_
      exact hend ⟨heading, ((mem_choices_iff hactive hconfig).1 hmem).candidate⟩
    rw [options_eq hactive, hnone]
  · intro hcandidate
    obtain ⟨last, pick, hinjective, hpick, hrun⟩ := exists_pick hactive hconfig hcandidate
    exact ⟨last, pick, hinjective, hpick, fun source => hrun source world⟩

/-- A canvas smaller than the maze. Only the tile above the first crossing shows a sprite. -/
def dotAbove : List (Stage.Event Recorder) := [
  .command (.setup ⟨10, 14, 8, 8, 0⟩),
  .command (.setTile (some Sprites.dot) 8 12)]

def dotCanvas : Canvas := ((Stage.fresh crumbSheet.toSheet Recorder.fresh).after dotAbove).canvas

/-- The player at the first crossing on its way, from which two open tiles lead on. -/
def crossing : Actor := ⟨Sprites.player, ⟨64, 104⟩, .left⟩

/-- The world in which the player has come there. -/
def atCrossing : World Xoshiro :=
  (fun world => (tick.run ⟨world, crumbPlay.canvas⟩).state.world)^[8] (.start (.ofSeed 7))

theorem eq_up_of_choosable {heading : Heading} (h : crossing.Choosable dotCanvas true heading) :
    heading = .up := by
  have hdot : crossing.Fed dotCanvas .up := ⟨Sprites.dot, by decide +kernel⟩
  obtain ⟨sprite, hsprite⟩ := h.fed rfl ⟨.up, by decide +kernel, hdot⟩
  cases heading with
  | up => rfl
  | right => exact absurd h.candidate (by decide)
  | down => exact absurd h.candidate (by decide +kernel)
  | left =>
      have hempty : dotCanvas.tile 7 13 = .ok none := by decide +kernel
      change dotCanvas.tile 7 13 = .ok (some sprite) at hsprite
      rw [hempty] at hsprite
      cases hsprite

theorem chooses_among_candidates_atCrossing :
    Ticked atCrossing ∧ crossing ∈ atCrossing.actors ∧ dotCanvas.isValid = true ∧
      crossing.aligned = true ∧ crossing.Candidate .left ∧
      ((chooseHeading crossing true).run ⟨atCrossing, dotCanvas⟩).result = .ok .up := by
  have hticked : Ticked atCrossing := (Ticked.start _).iterate crumbPlay.canvas 8
  have hcrossing : crossing ∈ atCrossing.actors := by decide +kernel
  have hvalid : dotCanvas.isValid = true := by decide +kernel
  have hleft : crossing.Candidate .left := by decide +kernel
  refine ⟨hticked, hcrossing, hvalid, by decide, hleft, ?_⟩
  have hcanvas : ((Stage.fresh crumbSheet.toSheet Recorder.fresh).after dotAbove).canvas =
    dotCanvas := rfl
  have hchooses := chooses_among_candidates hticked hcrossing true _ _ _ hcanvas hvalid
  obtain ⟨last, pick, -, hpick, hrun⟩ := hchooses.2 ⟨.left, hleft⟩
  have hup := eq_up_of_choosable ((hpick _).1 ⟨(RandomSource.draw last atCrossing.random).1, rfl⟩)
  rw [hrun, hup]

end World

end Mosaic
