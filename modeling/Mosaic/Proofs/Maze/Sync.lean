import Mosaic.Proofs.Canvas.Tiles
import Mosaic.Proofs.Maze.Session

/-!
# Showing the actors

`World.sync` writes the first slots of the canvas, one for each actor, and nothing else
(`Staged.run_sync`), and a tick neither reads nor writes slots (`matches_tick`). So it does not
matter how often the actors are shown between ticks, only that they are shown after the last one.
-/

namespace Mosaic

/-- An actor as its slot shows it. -/
def Actor.picture (a : Actor) : Option Sprite :=
  some ⟨a.sprite, ⟨a.pos.x, a.pos.y, tileSide, tileSide⟩⟩

namespace Canvas

/-- The canvas with other slots. -/
def withSlots (canvas : Canvas) (slots : Array (Option Sprite)) : Canvas :=
  { canvas with slots := slots }

/-- Canvases that differ in nothing but their slots. -/
def SameButSlots (canvas other : Canvas) : Prop := ∃ slots, other = canvas.withSlots slots

theorem sameButSlots_withSlots (canvas : Canvas) (slots : Array (Option Sprite)) :
    SameButSlots canvas (canvas.withSlots slots) := ⟨slots, rfl⟩

theorem seesTiles_sameButSlots : SeesTiles SameButSlots where
  sheet := by rintro canvas - ⟨slots, rfl⟩; rfl
  config := by rintro canvas - ⟨slots, rfl⟩; rfl
  tiles := by rintro canvas - ⟨slots, rfl⟩; rfl
  put := by
    rintro canvas - i sprite ⟨slots, rfl⟩
    exact sameButSlots_withSlots (canvas.put i sprite) slots

/-- The slots that the configuration does not ask for are empty. -/
theorem Sound.drop_slots {canvas : Canvas} (h : canvas.Sound) {a : Active}
    (ha : canvas.active = some a) :
    canvas.slots.toList.drop a.config.slots =
      List.replicate (Limits.slots - a.config.slots) none := by
  have hlength : canvas.slots.toList.length = Limits.slots := h.size_slots
  refine List.eq_replicate_iff.2 ⟨by rw [List.length_drop, hlength], fun sprite hmem => ?_⟩
  obtain ⟨i, hi, rfl⟩ := List.mem_iff_getElem.1 hmem
  have hbeyond := (h.fits a ha).slotted_beyond (a.config.slots + i) (Nat.le_add_right _ _)
  rw [List.length_drop] at hi
  rw [slotted, ← Array.getElem?_toList, List.getElem?_eq_getElem (by omega)] at hbeyond
  rw [List.getElem_drop]
  exact hbeyond

end Canvas

namespace World

variable {ρ : Type}

/-! ### Ticks do not look at slots -/

/-- The same worlds on canvases that differ in nothing but their slots. -/
def SamePlay (play other : Play ρ) : Prop :=
  other.world = play.world ∧ play.canvas.SameButSlots other.canvas

theorem matches_onCanvas {α : Type} {action : Action Canvas α}
    (h : Action.Matches Canvas.SameButSlots action action) :
    Action.Matches (SamePlay (ρ := ρ)) (onCanvas action) (onCanvas action) :=
  Action.matches_part h (fun _ _ hplay => hplay.2) fun _ _ _ _ hplay hcanvas => ⟨hplay.1, hcanvas⟩

theorem matches_change (f : World ρ → World ρ) :
    Action.Matches SamePlay (change f) (change f) :=
  Action.matches_modify fun _ _ h => ⟨congrArg f h.1, h.2⟩

theorem matches_resetLevel : Action.Matches (SamePlay (ρ := ρ)) resetLevel resetLevel := by
  refine Action.matches_bind (matches_onCanvas ?_) fun _ => ?_
  · exact Canvas.matches_copyText Canvas.seesTiles_sameButSlots _ _
  · exact Action.matches_bind (matches_change _) fun _ => Action.matches_note _ _

theorem matches_finishLevel : Action.Matches (SamePlay (ρ := ρ)) finishLevel finishLevel := by
  refine Action.matches_get_bind fun play other h => ?_
  rw [h.1]
  split
  · refine Action.matches_bind (Action.matches_ofExcept _) fun _ => ?_
    exact Action.matches_bind (matches_change _) fun _ => matches_resetLevel
  · exact Action.matches_pure ()

theorem matches_eat : Action.Matches (SamePlay (ρ := ρ)) eat eat := by
  have hsees := Canvas.seesTiles_sameButSlots
  refine Action.matches_get_bind fun play other h => ?_
  rw [h.1]
  dsimp only
  split
  · refine Action.matches_bind (matches_onCanvas (Canvas.matches_clampX hsees _)) fun x => ?_
    refine Action.matches_bind (matches_onCanvas (Canvas.matches_clampY hsees _)) fun y => ?_
    refine Action.matches_bind (matches_onCanvas (Canvas.matches_tile hsees x y)) fun sprite => ?_
    split
    · exact Action.matches_bind (matches_onCanvas (Canvas.matches_setTile hsees none x y))
        fun _ => matches_change _
    · exact Action.matches_pure ()
  · exact Action.matches_pure ()

theorem options_congr {canvas other : Canvas} (h : canvas.SameButSlots other) (a : Actor)
    (hungry : Bool) : options canvas a hungry = options other a hungry := by
  have hsees := Canvas.seesTiles_sameButSlots
  have hfed : ∀ ways, fed canvas a ways = fed other a ways := by
    intro ways
    simp only [fed, hsees.bounds h, hsees.tile h]
  simp only [options, hfed]

variable [RandomSource ρ]

theorem matches_chooseHeading (a : Actor) (hungry : Bool) :
    Action.Matches (SamePlay (ρ := ρ)) (chooseHeading a hungry) (chooseHeading a hungry) := by
  refine Action.matches_bind (Action.matches_query fun s t h => options_congr h.2 a hungry) ?_
  intro ways
  cases ways with
  | nil => exact Action.matches_pure _
  | cons first others =>
      refine Action.matches_get_bind fun play other h => ?_
      rw [h.1]
      exact Action.matches_bind (matches_change _) fun _ => Action.matches_pure _

theorem matches_advance (a : Actor) (hungry : Bool) :
    Action.Matches (SamePlay (ρ := ρ)) (advance a hungry) (advance a hungry) := by
  unfold advance
  split
  · refine Action.matches_bind (matches_chooseHeading a hungry) fun heading => ?_
    dsimp only
    split
    · exact Action.matches_ofExcept _
    · exact Action.matches_pure _
  · exact Action.matches_ofExcept _

theorem matches_movePlayer : Action.Matches (SamePlay (ρ := ρ)) movePlayer movePlayer := by
  refine Action.matches_get_bind fun play other h => ?_
  rw [h.1]
  exact Action.matches_bind (matches_advance _ true) fun _ => matches_change _

theorem matches_moveGhost (i : Nat) :
    Action.Matches (SamePlay (ρ := ρ)) (moveGhost i) (moveGhost i) := by
  refine Action.matches_get_bind fun play other h => ?_
  rw [h.1]
  cases play.world.ghosts[i]? with
  | none => exact Action.matches_pure ()
  | some ghost =>
      exact Action.matches_bind (matches_advance ghost false) fun _ => matches_change _

/-- A tick comes to the same whatever the slots show, and it leaves them alone. -/
theorem matches_tick : Action.Matches (SamePlay (ρ := ρ)) tick tick := by
  refine Action.matches_bind matches_eat fun _ => ?_
  refine Action.matches_bind matches_movePlayer fun _ => ?_
  refine Action.matches_get_bind fun play other h => ?_
  rw [h.1]
  exact Action.matches_bind (Action.matches_each fun i _ => matches_moveGhost i) fun _ =>
    matches_finishLevel

omit [RandomSource ρ]

/-! ### A slot for each actor -/

/-- The play with the actors in the slots of the canvas and nothing else in them. -/
def synced (play : Play ρ) : Play ρ :=
  { play with canvas := play.canvas.withSlots (play.world.actors.map Actor.picture ++
      List.replicate (Limits.slots - play.world.slots) none).toArray }

theorem samePlay_synced (play : Play ρ) : SamePlay play (synced play) :=
  ⟨rfl, Canvas.sameButSlots_withSlots play.canvas _⟩

theorem synced_of_samePlay {play other : Play ρ} (h : SamePlay play other) :
    synced other = synced play := by
  obtain ⟨hworld, slots, hcanvas⟩ := h
  obtain ⟨world, canvas⟩ := other
  cases hworld
  cases hcanvas
  rfl

/-- Actors are shown one after the other, each in the slot after the one before. -/
theorem run_showActors {canvas : Canvas} {as : List Actor} {done old rest : List (Option Sprite)}
    (hslots : canvas.slots.toList = done ++ old ++ rest) (hlength : old.length = as.length)
    (hcheck : ∀ i, i < done.length + as.length → canvas.checkSlot i = .ok ())
    (hsheet : ∀ a ∈ as, canvas.sheet.Contains a.sprite) :
    (Action.each showActor (as.zipIdx done.length)).run canvas =
      ⟨.ok (), canvas.withSlots (done ++ as.map Actor.picture ++ rest).toArray, []⟩ := by
  induction as generalizing canvas done old with
  | nil =>
      rw [List.length_nil, List.length_eq_zero_iff] at hlength
      rw [hlength] at hslots
      simp only [List.zipIdx_nil, Action.each_nil, Action.run_pure, List.map_nil, ← hslots,
        Array.toArray_toList]
      rfl
  | cons a as ih =>
      obtain ⟨first, old, rfl⟩ := List.exists_cons_of_length_eq_add_one hlength
      have hslot := hcheck done.length (by rw [List.length_cons]; omega)
      have hsprite : canvas.sheet.checkOption (some a.sprite) = .ok () :=
        Sheet.checkOption_eq_ok_iff.2 fun id hid =>
          Option.mem_some.1 hid ▸ hsheet a List.mem_cons_self
      have hfirst : (showActor (a, done.length)).run canvas =
          ⟨.ok (), canvas.place done.length (a.picture), []⟩ :=
        Canvas.run_setSprite_of_ok _ hslot hsprite
      have hnext : (canvas.place done.length (a.picture)).slots.toList =
          done ++ [a.picture] ++ old ++ rest := by
        rw [Canvas.place, Array.toList_setIfInBounds, hslots]
        simp
      have hplaces : ∀ i, i < (done ++ [a.picture]).length + as.length →
          (canvas.place done.length (a.picture)).checkSlot i = .ok () := by
        intro i hi
        refine hcheck i ?_
        rw [List.length_append, List.length_singleton] at hi
        rw [List.length_cons]
        omega
      have hrest := ih hnext (by simpa using hlength) hplaces fun b hb =>
        hsheet b (List.mem_cons_of_mem a hb)
      rw [List.length_append, List.length_singleton] at hrest
      rw [List.zipIdx_cons, Action.each_cons, Action.run_bind_of_silent hfirst, hrest]
      simp [Canvas.withSlots, Canvas.place]

/-- The sprites of the actors, in the order of their slots. -/
def cast : List SpriteId :=
  [Sprites.player, Sprites.redGhost, Sprites.pinkGhost, Sprites.cyanGhost]

/-- A stocked play of the player and the three ghosts, all of them on the sheet. -/
structure Staged (play : Play ρ) : Prop where
  stocked : Stocked play
  cast : play.world.actors.map Actor.sprite = cast
  onSheet : ∀ id ∈ World.cast, play.canvas.sheet.Contains id

variable {play : Play ρ}

theorem Staged.length_actors (h : Staged play) : play.world.actors.length = 4 := by
  have hlength := congrArg List.length h.cast
  rwa [List.length_map] at hlength

theorem Staged.sheet_contains (h : Staged play) {a : Actor} (ha : a ∈ play.world.actors) :
    play.canvas.sheet.Contains a.sprite :=
  h.onSheet a.sprite (h.cast ▸ List.mem_map_of_mem ha)

/-- The actors are in their slots after they were shown, and all else is as before. -/
theorem Staged.run_sync (h : Staged play) :
    sync.run play = ⟨.ok (), synced play, []⟩ := by
  obtain ⟨a, ha, hconfig⟩ := h.stocked.ready.active
  have hcount : a.config.slots = play.world.actors.length := by
    rw [hconfig, h.length_actors]
    rfl
  have hrest := h.stocked.sound.drop_slots ha
  have hslots : play.canvas.slots.toList = [] ++ play.canvas.slots.toList.take a.config.slots ++
      List.replicate (Limits.slots - a.config.slots) none := by
    rw [← hrest]
    exact (List.take_append_drop _ _).symm
  have hlength : (play.canvas.slots.toList.take a.config.slots).length =
      play.world.actors.length := by
    rw [List.length_take, Array.length_toList, ← hcount]
    exact Nat.min_eq_left (h.stocked.sound.slots_le_size ha)
  have hcheck : ∀ i, i < ([] : List (Option Sprite)).length + play.world.actors.length →
      play.canvas.checkSlot i = .ok () := by
    intro i hi
    rw [List.length_nil, Nat.zero_add, ← hcount] at hi
    exact (Canvas.checkSlot_eq_ok_iff ha).2 hi
  have hrun := run_showActors hslots hlength hcheck fun a ha => h.sheet_contains ha
  rw [List.length_nil] at hrun
  rw [sync, Action.run_get_bind, onCanvas, Action.run_part, hrun, hcount]
  rfl

theorem Staged.synced (h : Staged play) : Staged (synced play) := by
  have hkeeps : play.canvas.Keeps (sync.run play).state.canvas := by
    change play.canvas.Keeps
      ((Action.each showActor play.world.actors.zipIdx).run play.canvas).state
    exact Action.follows_each (fun entry _ => Canvas.follows_setSprite _ _ _) play.canvas
  rw [h.run_sync] at hkeeps
  exact ⟨h.stocked.of_sameTiles hkeeps ⟨rfl, rfl⟩, h.cast, h.onSheet⟩

theorem Staged.roams (h : Staged play) : Roams play where
  sound := h.stocked.sound
  closed := h.stocked.ready.closed
  isValid := by
    obtain ⟨a, ha, -⟩ := h.stocked.ready.active
    exact Option.isSome_iff_exists.2 ⟨a, ha⟩
  actors := h.stocked.actors
  count := h.length_actors

theorem sprites_of_advances {as bs : List Actor} (h : List.Forall₂ Actor.Advances as bs) :
    bs.map Actor.sprite = as.map Actor.sprite := by
  induction h with
  | nil => rfl
  | cons hab hrest ih => rw [List.map_cons, List.map_cons, hab.sprite, ih]

variable [RandomSource ρ]

/-- A tick leaves the stage to the next, unless the number of cleared levels cannot grow. -/
theorem Staged.tick (h : Staged play) :
    ((tick.run play).result = .ok () ∧ Staged (tick.run play).state) ∨
      (tick.run play).result = .error (.overflow .add) ∧
        Bounded.Width.bits32.count ≤ (tick.run play).state.world.levelsCleared + 1 := by
  obtain ⟨hadvances, hkeeps, -⟩ := h.roams.tick
  obtain ⟨hok, hstocked, -⟩ | ⟨hfault, hcount⟩ := h.stocked.tick
  · left
    refine ⟨hok, hstocked, ?_, ?_⟩
    · rw [sprites_of_advances hadvances]
      exact h.cast
    · rw [hkeeps.sheet]
      exact h.onSheet
  · right
    refine ⟨hfault, ?_⟩
    obtain ⟨random, player, ghosts, -, hrun⟩ := run_tick_cases h.stocked.ready h.stocked.actors
    rcases hrun with ⟨-, hrun⟩ | ⟨-, -, hrun⟩ | ⟨notes, -, -, hrun⟩
    · rw [hrun] at hfault
      cases hfault
    · rw [hrun]
      exact (eaten_levelsCleared play mazeConfig).symm ▸ hcount
    · rw [hrun] at hfault
      cases hfault

end World

end Mosaic
