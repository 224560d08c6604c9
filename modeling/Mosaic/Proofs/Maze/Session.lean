import Mosaic.Maze.Game
import Mosaic.Proofs.Maze.Food
import Mosaic.Proofs.Maze.Walk

/-!
# Accounts of a game

A session is a game on a canvas of its own: the level is copied once, and then the world ticks, its
actors are shown, and the canvas lists its vertices and is rendered, in any order. The number of
food in the world and the tiles of the canvas are changed by different parts of a tick, and they
agree after every call (`Balanced`). The invariant behind it is `Stocked`, which says what each tile
may show.
-/

namespace Mosaic

/-! ### Calls that leave the tiles alone -/

namespace Canvas

/-- The canvas stays set up as it is, with the same tiles. -/
def SameTiles (before after : Canvas) : Prop :=
  after.active = before.active ∧ after.tiles = before.tiles

instance : IsPreorder Canvas SameTiles where
  refl _ := ⟨rfl, rfl⟩
  trans _ _ _ hab hbc := ⟨hbc.1.trans hab.1, hbc.2.trans hab.2⟩

theorem sameTiles_setSprite (slot : Nat) (sprite : Option SpriteId) (bounds : Rect) :
    Action.Follows SameTiles (setSprite slot sprite bounds) := by
  intro canvas
  obtain ⟨fault, hrun⟩ | ⟨-, -, hrun⟩ := run_setSprite_cases slot sprite bounds canvas
  · rw [hrun]
    exact refl_of SameTiles canvas
  · rw [hrun]
    exact ⟨rfl, rfl⟩

theorem sameTiles_updateVertices : Action.Follows SameTiles updateVertices := by
  refine Action.follows_bind (Action.follows_query _) fun c => ?_
  refine Action.follows_bind (Action.follows_ofExcept _) fun width => ?_
  refine Action.follows_bind (Action.follows_ofExcept _) fun height => ?_
  refine Action.follows_bind Action.follows_get fun canvas => ?_
  exact fun before => ⟨rfl, rfl⟩

theorem tile_congr {before after : Canvas} (h : before.SameTiles after) (x y : Int) :
    after.tile x y = before.tile x y := by
  simp only [tile, tileIndex, config, requireActive, stored, h.1, h.2]

theorem gridTiles_congr {before after : Canvas} (h : before.SameTiles after) (c : Config) :
    after.gridTiles c = before.gridTiles c := by
  rw [gridTiles, h.2, gridTiles]

end Canvas

namespace Stage

variable {δ : Type}

/-- The canvas of a stage stays set up as it is, with the same tiles. -/
def SameTiles (before after : Stage δ) : Prop := before.canvas.SameTiles after.canvas

instance : IsPreorder (Stage δ) SameTiles where
  refl stage := refl_of Canvas.SameTiles stage.canvas
  trans _ _ _ hab hbc := trans_of Canvas.SameTiles hab hbc

theorem sameTiles_onCanvas {α : Type} {action : Action Canvas α}
    (h : Action.Follows Canvas.SameTiles action) :
    Action.Follows SameTiles (onCanvas action : Action (Stage δ) α) :=
  Action.follows_part h fun _ _ hsame => hsame

theorem sameTiles_onDevice {α : Type} (action : Action δ α) :
    Action.Follows SameTiles (onDevice action) :=
  fun stage => refl_of Canvas.SameTiles stage.canvas

theorem sameTiles_render [Device δ] :
    Action.Follows SameTiles (render : Action (Stage δ) Unit) := by
  refine Action.follows_bind (sameTiles_onCanvas (Action.follows_query _)) fun a => ?_
  refine Action.follows_bind (sameTiles_onCanvas Canvas.sameTiles_updateVertices) fun _ => ?_
  refine Action.follows_bind Action.follows_get fun stage => ?_
  refine Action.follows_bind (Action.follows_log _ _) fun _ => ?_
  exact Action.follows_bind (sameTiles_onDevice _) fun _ => sameTiles_onDevice _

end Stage

namespace World

variable {ρ : Type}

/-! ### Tiles, food and counters -/

/-- What each tile of a game may show, and how much food that is. -/
structure Stocked (play : Play ρ) : Prop where
  sound : play.canvas.Sound
  ready : play.canvas.Ready mazeConfig
  names : play.canvas.sheet.spriteFor = Level.sprite?
  actors : ∀ a ∈ play.world.actors, a.InCorridor
  tiles : List.Forall₂ Level.Holds Level.text (play.canvas.gridTiles mazeConfig)
  foodLeft : play.world.foodLeft =
    (play.canvas.gridTiles mazeConfig).countP fun sprite => ShowsFood sprite
  positive : 1 ≤ play.world.foodLeft

/-- The tiles and the counters of a game agree: a tile shows the sprite of the level or is empty
where the level has food, and the food that is counted is what the tiles show. -/
structure Balanced (play : Play ρ) : Prop where
  tiles : ∀ p : Point, (0 ≤ p.x ∧ p.x < Level.columns) ∧ 0 ≤ p.y ∧ p.y < Level.rows →
    ∃ character sprite, Level.at? p = some character ∧
      play.canvas.tile p.x p.y = .ok sprite ∧ Level.Holds character sprite
  foodLeft : ∃ lines, play.canvas.grid = .ok lines ∧
    play.world.foodLeft = lines.flatten.countP fun sprite => ShowsFood sprite
  positive : 1 ≤ play.world.foodLeft
  le_food : play.world.foodLeft ≤ Level.food
  occupied : play.canvas.occupied =
    .ok (Level.text.countP (fun c => Level.Blocks c) + play.world.foodLeft)

theorem Stocked.tile {play : Play ρ} (h : Stocked play) {p : Point}
    (hp : (0 ≤ p.x ∧ p.x < Level.columns) ∧ 0 ≤ p.y ∧ p.y < Level.rows) :
    play.canvas.tile p.x p.y = .ok (play.canvas.stored (mazeConfig.index p.x p.y)) :=
  h.ready.tile hp.1.1 hp.1.2 hp.2.1 hp.2.2

theorem index_lt_cells {p : Point}
    (hp : (0 ≤ p.x ∧ p.x < Level.columns) ∧ 0 ≤ p.y ∧ p.y < Level.rows) :
    mazeConfig.index p.x p.y < mazeConfig.cells :=
  Config.index_lt_cells hp.1.1 hp.1.2 hp.2.1 hp.2.2

theorem Stocked.holds {play : Play ρ} (h : Stocked play) {i : Nat} {character : Char}
    (hi : Level.text[i]? = some character) : Level.Holds character (play.canvas.stored i) := by
  obtain ⟨hlength, rfl⟩ := List.getElem?_eq_some_iff.1 hi
  rw [← cells_mazeConfig] at hlength
  have hstored := Canvas.getElem?_gridTiles (cells_le_size h.sound) hlength
  obtain ⟨hlength', hstored⟩ := List.getElem?_eq_some_iff.1 hstored
  rw [← hstored]
  exact h.tiles.get (by rwa [cells_mazeConfig] at hlength) hlength'

theorem Stocked.balanced {play : Play ρ} (h : Stocked play) : Balanced play where
  tiles := by
    intro p hp
    have hlength := index_lt_cells hp
    rw [cells_mazeConfig] at hlength
    have htext := List.getElem?_eq_getElem hlength
    exact ⟨_, _, at?_eq_some_iff.2 ⟨hp, htext⟩, h.tile hp, h.holds htext⟩
  foodLeft := by
    obtain ⟨lines, hgrid, hlines⟩ := h.ready.grid (cells_le_size h.sound)
    exact ⟨lines, hgrid, hlines ▸ h.foodLeft⟩
  positive := h.positive
  le_food := by
    rw [h.foodLeft]
    exact Level.countP_showsFood_le h.tiles
  occupied := by
    obtain ⟨a, ha, hconfig⟩ := h.ready.active
    have hsize : a.config.cells ≤ play.canvas.tiles.size := hconfig ▸ cells_le_size h.sound
    rw [Canvas.occupied_eq ha (h.sound.fits a ha) h.sound.size_tiles,
      Canvas.length_tilePictures ha hsize, hconfig, h.foodLeft]
    exact congrArg Except.ok (Level.countP_isSome h.tiles)

theorem Stocked.of_sameTiles {play : Play ρ} (h : Stocked play) {canvas : Canvas}
    (hkeeps : play.canvas.Keeps canvas) (hsame : play.canvas.SameTiles canvas) :
    Stocked ⟨play.world, canvas⟩ := by
  have htiles := Canvas.gridTiles_congr hsame mazeConfig
  refine ⟨hkeeps.sound h.sound, ⟨?_, valid_mazeConfig, ?_⟩, ?_, h.actors, ?_, ?_, h.positive⟩
  · rw [hsame.1]
    exact h.ready.active
  · rw [hkeeps.sheet]
    exact h.ready.closed
  · rw [hkeeps.sheet]
    exact h.names
  · rw [htiles]
    exact h.tiles
  · rw [htiles]
    exact h.foodLeft

/-! ### What a tick does to the tiles -/

/-- The player sits on a tile that shows food. -/
def OnFood (play : Play ρ) : Prop :=
  play.world.player.aligned = true ∧ ∃ sprite,
    play.canvas.tile play.world.player.tile.x play.world.player.tile.y = .ok sprite ∧
      ShowsFood sprite

/-- A tick that eats nothing. -/
structure Untouched (before after : Play ρ) : Prop where
  notOnFood : ¬ OnFood before
  tiles : ∀ p : Point, after.canvas.tile p.x p.y = before.canvas.tile p.x p.y
  foodLeft : after.world.foodLeft = before.world.foodLeft
  levelsCleared : after.world.levelsCleared = before.world.levelsCleared

/-- A tick that eats the food below the player. -/
structure Ate (before after : Play ρ) : Prop where
  onFood : OnFood before
  emptied :
    after.canvas.tile before.world.player.tile.x before.world.player.tile.y = .ok none
  tiles : ∀ p : Point, p ≠ before.world.player.tile →
    after.canvas.tile p.x p.y = before.canvas.tile p.x p.y
  foodLeft : after.world.foodLeft + 1 = before.world.foodLeft
  levelsCleared : after.world.levelsCleared = before.world.levelsCleared

/-- A tick that eats the last food, so that the level starts again. -/
structure Refilled (before after : Play ρ) : Prop where
  onFood : OnFood before
  last : before.world.foodLeft = 1
  tiles : ∀ p character, Level.at? p = some character →
    after.canvas.tile p.x p.y = .ok (Level.sprite? character)
  foodLeft : after.world.foodLeft = Level.food
  levelsCleared : after.world.levelsCleared = before.world.levelsCleared + 1

theorem nearest_tile {a : Actor} (h : a.InCorridor) :
    mazeConfig.nearest a.tile = mazeConfig.index a.tile.x a.tile.y := by
  obtain ⟨⟨hx, hx'⟩, hy, hy'⟩ := Level.mem_of_isOpen h.isOpen_tile
  have hcolumn : Canvas.clampTo mazeConfig.columns a.tile.x = a.tile.x := by
    simp only [Canvas.clampTo, mazeConfig]
    omega
  have hrow : Canvas.clampTo mazeConfig.rows a.tile.y = a.tile.y := by
    simp only [Canvas.clampTo, mazeConfig]
    omega
  rw [Config.nearest, hcolumn, hrow]

variable {play : Play ρ}

theorem Stocked.mem_tile (h : Stocked play) :
    (0 ≤ play.world.player.tile.x ∧ play.world.player.tile.x < Level.columns) ∧
      0 ≤ play.world.player.tile.y ∧ play.world.player.tile.y < Level.rows :=
  Level.mem_of_isOpen (h.actors _ List.mem_cons_self).isOpen_tile

theorem Stocked.eats_iff (h : Stocked play) : Eats play mazeConfig ↔ OnFood play := by
  rw [Eats, OnFood, nearest_tile (h.actors _ List.mem_cons_self), h.tile h.mem_tile]
  constructor
  · rintro ⟨haligned, hfood⟩
    exact ⟨haligned, _, rfl, hfood⟩
  · rintro ⟨haligned, sprite, hsprite, hfood⟩
    cases hsprite
    exact ⟨haligned, hfood⟩

/-- The tile below the player is emptied and no other. -/
theorem Stocked.tile_put (h : Stocked play) {p : Point} (hp : p ≠ play.world.player.tile) :
    (play.canvas.put (mazeConfig.nearest play.world.player.tile) none).tile p.x p.y =
      play.canvas.tile p.x p.y := by
  obtain ⟨a, ha, hconfig⟩ := h.ready.active
  rw [nearest_tile (h.actors _ List.mem_cons_self)]
  have hindex : (play.canvas.put (mazeConfig.index play.world.player.tile.x
      play.world.player.tile.y) none).tileIndex p.x p.y = play.canvas.tileIndex p.x p.y := rfl
  rw [Canvas.tile, hindex, Canvas.tile]
  cases hi : play.canvas.tileIndex p.x p.y with
  | error fault => rfl
  | ok i =>
      obtain ⟨hmem, rfl⟩ := (Canvas.tileIndex_eq_ok_iff ha).1 hi
      rw [hconfig] at hmem ⊢
      have hne := index_mazeConfig_ne h.mem_tile.1 h.mem_tile.2.1 hmem.1 hmem.2.1 hp.symm
      exact congrArg Except.ok (Canvas.stored_put_of_ne hne play.canvas none)

theorem Stocked.getElem?_nearest (h : Stocked play) :
    (play.canvas.gridTiles mazeConfig)[mazeConfig.nearest play.world.player.tile]? =
      some (play.canvas.stored (mazeConfig.nearest play.world.player.tile)) :=
  Canvas.getElem?_gridTiles (cells_le_size h.sound) (Canvas.nearest_lt_cells valid_mazeConfig _)

theorem Stocked.holds_put (h : Stocked play) (heats : Eats play mazeConfig) :
    List.Forall₂ Level.Holds Level.text
      ((play.canvas.put (mazeConfig.nearest play.world.player.tile) none).gridTiles
        mazeConfig) := by
  rw [Canvas.gridTiles_put]
  refine Level.forall₂_holds_set h.tiles fun sprite hsprite => ?_
  rw [h.getElem?_nearest] at hsprite
  cases hsprite
  exact heats.2

theorem Stocked.countP_put (h : Stocked play) (heats : Eats play mazeConfig) :
    ((play.canvas.put (mazeConfig.nearest play.world.player.tile) none).gridTiles
        mazeConfig).countP (fun sprite => ShowsFood sprite) + 1 = play.world.foodLeft := by
  obtain ⟨hlength, hstored⟩ := List.getElem?_eq_some_iff.1 h.getElem?_nearest
  rw [Canvas.gridTiles_put, h.foodLeft]
  refine Level.countP_showsFood_set hlength ?_
  rw [hstored]
  exact heats.2

/-- A level that was just copied is complete. -/
theorem stocked_filled {canvas : Canvas} {world : World ρ} (hsound : canvas.Sound)
    (hready : canvas.Ready mazeConfig) (hnames : canvas.sheet.spriteFor = Level.sprite?)
    (hactors : ∀ a ∈ world.actors, a.InCorridor) (hfood : world.foodLeft = Level.food) :
    Stocked ⟨world, filled canvas mazeConfig⟩ := by
  have hkeeps := keepsActive_filled hready
  have htiles := gridTiles_filled hready.closed (cells_le_size hsound)
  rw [hnames] at htiles
  refine ⟨hkeeps.sound hsound, ⟨?_, valid_mazeConfig, ?_⟩, ?_, hactors, ?_, ?_, ?_⟩
  · rw [hkeeps.active]
    exact hready.active
  · rw [hkeeps.sheet]
    exact hready.closed
  · rw [hkeeps.sheet]
    exact hnames
  · rw [htiles]
    exact Level.forall₂_holds_sprite? _
  · rw [htiles, Level.countP_showsFood_map]
    exact hfood
  · rw [hfood, Level.food_eq]
    decide

theorem tile_filled {world : World ρ} {canvas : Canvas} (hsound : canvas.Sound)
    (hready : canvas.Ready mazeConfig) (hnames : canvas.sheet.spriteFor = Level.sprite?)
    (h : Stocked (⟨world, filled canvas mazeConfig⟩ : Play ρ)) {p : Point} {character : Char}
    (hp : Level.at? p = some character) :
    (filled canvas mazeConfig).tile p.x p.y = .ok (Level.sprite? character) := by
  obtain ⟨hmem, htext⟩ := at?_eq_some_iff.1 hp
  have hstored := Canvas.getElem?_gridTiles (cells_le_size h.sound) (index_lt_cells hmem)
  rw [gridTiles_filled hready.closed (cells_le_size hsound), List.getElem?_map, htext,
    hnames] at hstored
  refine (h.tile hmem).trans ?_
  exact congrArg Except.ok (Option.some.inj hstored).symm

variable {random : ρ} {player : Actor} {ghosts : List Actor}

theorem Stocked.untouched (h : Stocked play) (hnot : ¬ Eats play mazeConfig)
    (hactors : ∀ a ∈ player :: ghosts, a.InCorridor) :
    Stocked (moved play random player ghosts) ∧
      Untouched play (moved play random player ghosts) :=
  ⟨{ h with actors := hactors }, fun hfood => hnot (h.eats_iff.2 hfood), fun _ => rfl, rfl, rfl⟩

theorem eaten_of_eats (heats : Eats play mazeConfig) :
    eaten play mazeConfig =
      ⟨{ play.world with foodLeft := play.world.foodLeft - 1 },
        play.canvas.put (mazeConfig.nearest play.world.player.tile) none⟩ := if_pos heats

theorem Stocked.ate (h : Stocked play) (heats : Eats play mazeConfig)
    (hactors : ∀ a ∈ player :: ghosts, a.InCorridor)
    (hleft : (eaten play mazeConfig).world.foodLeft ≠ 0) :
    Stocked (moved (eaten play mazeConfig) random player ghosts) ∧
      Ate play (moved (eaten play mazeConfig) random player ghosts) := by
  have hcount := h.countP_put heats
  have hsound := (keepsActive_eaten h.ready).sound h.sound
  have hready := ready_eaten h.ready
  rw [eaten_of_eats heats] at hleft hsound hready ⊢
  have hnext : Stocked (moved (⟨{ play.world with foodLeft := play.world.foodLeft - 1 },
      play.canvas.put (mazeConfig.nearest play.world.player.tile) none⟩ : Play ρ) random player
        ghosts) := {
    sound := hsound
    ready := hready
    names := h.names
    actors := hactors
    tiles := h.holds_put heats
    foodLeft := Nat.eq_sub_of_add_eq hcount ▸ rfl
    positive := Nat.pos_of_ne_zero hleft }
  refine ⟨hnext, h.eats_iff.1 heats, ?_, fun p hp => h.tile_put hp, ?_, rfl⟩
  · have hplace : mazeConfig.nearest play.world.player.tile < play.canvas.tiles.size :=
      Nat.lt_of_lt_of_le (Canvas.nearest_lt_cells valid_mazeConfig _) (cells_le_size h.sound)
    have htile := hnext.tile h.mem_tile
    rw [← nearest_tile (h.actors _ List.mem_cons_self)] at htile
    exact htile.trans (congrArg Except.ok (Canvas.stored_put_self hplace none))
  · exact Nat.sub_add_cancel h.positive

theorem Stocked.refilled (h : Stocked play) (hactors : ∀ a ∈ player :: ghosts, a.InCorridor)
    (hleft : (eaten play mazeConfig).world.foodLeft = 0) :
    Stocked (⟨⟨random, player, ghosts, Level.food, play.world.levelsCleared + 1⟩,
        filled (eaten play mazeConfig).canvas mazeConfig⟩ : Play ρ) ∧
      Refilled play ⟨⟨random, player, ghosts, Level.food, play.world.levelsCleared + 1⟩,
        filled (eaten play mazeConfig).canvas mazeConfig⟩ := by
  have hkeeps := keepsActive_eaten h.ready
  have hsound := hkeeps.sound h.sound
  have hready := ready_eaten h.ready
  have hnames : (eaten play mazeConfig).canvas.sheet.spriteFor = Level.sprite? := by
    rw [hkeeps.sheet]
    exact h.names
  have heats : Eats play mazeConfig := by
    by_contra hnot
    have heaten : eaten play mazeConfig = play := if_neg hnot
    rw [heaten] at hleft
    exact absurd h.positive (by omega)
  have hnext : Stocked (⟨⟨random, player, ghosts, Level.food, play.world.levelsCleared + 1⟩,
      filled (eaten play mazeConfig).canvas mazeConfig⟩ : Play ρ) := by
    refine stocked_filled hsound hready hnames hactors ?_
    dsimp only
  refine ⟨hnext, h.eats_iff.1 heats, ?_, ?_, by dsimp only, rfl⟩
  · have hpositive := h.positive
    rw [eaten_of_eats heats] at hleft
    dsimp only at hleft
    omega
  · intro p character hp
    exact tile_filled hsound hready hnames hnext hp

variable [RandomSource ρ]

/-- A tick keeps the accounts. It eats at most the food below the player, and it fills the level
again exactly when that was the last food. -/
theorem Stocked.tick (h : Stocked play) :
    ((tick.run play).result = .ok () ∧ Stocked (tick.run play).state ∧
        (Untouched play (tick.run play).state ∨ Ate play (tick.run play).state ∨
          Refilled play (tick.run play).state)) ∨
      (tick.run play).result = .error (.overflow .add) ∧
        Bounded.Width.bits32.count ≤ play.world.levelsCleared + 1 := by
  obtain ⟨random, player, ghosts, hadvances, hrun⟩ := run_tick_cases h.ready h.actors
  have hactors := Actor.inCorridor_of_advances hadvances
  rcases hrun with ⟨hleft, hrun⟩ | ⟨-, hcount, hrun⟩ | ⟨notes, hleft, -, hrun⟩
  · left
    rw [hrun]
    by_cases heats : Eats play mazeConfig
    · obtain ⟨hstocked, hate⟩ := h.ate heats hactors hleft
      exact ⟨rfl, hstocked, .inr (.inl hate)⟩
    · obtain ⟨hstocked, huntouched⟩ := h.untouched heats hactors
      have heaten : eaten play mazeConfig = play := if_neg heats
      rw [heaten]
      exact ⟨rfl, hstocked, .inl huntouched⟩
  · right
    rw [hrun]
    exact ⟨rfl, hcount⟩
  · left
    rw [hrun]
    obtain ⟨hstocked, hrefilled⟩ := h.refilled hactors hleft
    exact ⟨rfl, hstocked, .inr (.inr hrefilled)⟩

end World

/-! ### Sessions -/

/-- A world and the stage that it is shown on. -/
structure Session (ρ δ : Type) where
  world : World ρ
  stage : Stage δ

namespace Session

variable {ρ δ : Type}

/-- The world with the canvas of its stage. -/
def play (s : Session ρ δ) : Play ρ := ⟨s.world, s.stage.canvas⟩

/-- Runs an action on the world and the canvas. -/
def onPlay {α : Type} (action : Action (Play ρ) α) : Action (Session ρ δ) α :=
  action.part play fun play s => ⟨play.world, { s.stage with canvas := play.canvas }⟩

/-- Runs an action on the stage. -/
def onStage {α : Type} (action : Action (Stage δ) α) : Action (Session ρ δ) α :=
  action.part stage fun stage s => { s with stage := stage }

/-- What a game calls between two frames. -/
inductive Call where
  | tick
  | sync
  | updateVertices
  | render

theorem play_onPlay {α : Type} (action : Action (Play ρ) α) (s : Session ρ δ) :
    ((onPlay action).run s).state.play = (action.run s.play).state := rfl

variable [RandomSource ρ] [Device δ]

def Call.run : Call → Action (Session ρ δ) Unit
  | .tick => onPlay World.tick
  | .sync => onPlay World.sync
  | .updateVertices => onStage (Stage.onCanvas Canvas.updateVertices)
  | .render => onStage Stage.render

/-- The sessions that begin with a copy of the level on a canvas that was set up for the game with
its own sheet, and in which each tick so far has answered. -/
inductive Played : Session ρ δ → Prop
  | begin (random : ρ) (device : δ) {g : GridSheet} (hg : Sprites.sheet = .ok (.ok g))
      (events : List (Stage.Event δ)) {a : Active}
      (h : ((Stage.fresh g.toSheet device).after events).canvas.active = some a)
      (hconfig : a.config = (Game.start random).config) :
      Played ((onPlay World.resetLevel).run
        ⟨.start random, (Stage.fresh g.toSheet device).after events⟩).state
  | call {s : Session ρ δ} (c : Call) (hs : Played s)
      (h : c = .tick → (c.run.run s).result = .ok ()) : Played (c.run.run s).state

/-- Showing the actors leaves the world and the tiles alone. -/
theorem keeps_sync (s : Session ρ δ) :
    ((Call.run .sync).run s).state.world = s.world ∧
      s.stage.Keeps ((Call.run .sync).run s).state.stage ∧
        s.stage.SameTiles ((Call.run .sync).run s).state.stage := by
  have hstate : ((Call.run .sync).run s).state = { s with stage := { s.stage with
      canvas :=
        ((Action.each World.showActor s.world.actors.zipIdx).run s.stage.canvas).state } } := rfl
  rw [hstate]
  refine ⟨rfl, ?_, ?_⟩
  · exact Action.follows_each (fun entry _ => Canvas.follows_setSprite _ _ _) s.stage.canvas
  · exact Action.follows_each (fun entry _ => Canvas.sameTiles_setSprite _ _ _) s.stage.canvas

/-- Every call other than a tick leaves the world and the tiles alone. -/
theorem keeps_call (c : Call) (hc : c ≠ .tick) (s : Session ρ δ) :
    (c.run.run s).state.world = s.world ∧ s.stage.Keeps (c.run.run s).state.stage ∧
      s.stage.SameTiles (c.run.run s).state.stage := by
  cases c with
  | tick => exact absurd rfl hc
  | sync => exact keeps_sync s
  | updateVertices =>
      exact ⟨rfl, Canvas.follows_updateVertices s.stage.canvas,
        Canvas.sameTiles_updateVertices s.stage.canvas⟩
  | render => exact ⟨rfl, Stage.follows_render s.stage, Stage.sameTiles_render s.stage⟩

theorem stocked_of_played {s : Session ρ δ} (h : Played s) : World.Stocked s.play := by
  induction h with
  | @begin random device g hg events a hactive hconfig =>
      let before : Play ρ := ⟨.start random, ((Stage.fresh g.toSheet device).after events).canvas⟩
      have hsheet := Stage.sheet_after (Stage.fresh g.toSheet device) events
      have hready : before.canvas.Ready World.mazeConfig := by
        refine ⟨⟨a, hactive, hconfig⟩, World.valid_mazeConfig, ?_⟩
        rw [hsheet]
        exact Level.closed_of_sheet hg
      obtain ⟨notes, hrun⟩ := World.run_resetLevel hready
      rw [play_onPlay]
      change World.Stocked (World.resetLevel.run before).state
      rw [hrun]
      refine World.stocked_filled (Stage.sound_after _ device events) hready ?_ ?_ ?_
      · rw [hsheet]
        exact Level.sprite?_of_sheet hg
      · exact World.inCorridor_start random
      · dsimp only
  | @call s c hs hresult ih =>
      by_cases hc : c = .tick
      · subst hc
        obtain ⟨-, hstocked, -⟩ | ⟨hfault, -⟩ := ih.tick
        · exact hstocked
        · have hok : (World.tick.run s.play).result = .ok () := hresult rfl
          rw [hfault] at hok
          cases hok
      · obtain ⟨hworld, hkeeps, hsame⟩ := keeps_call c hc s
        rw [play, hworld]
        exact ih.of_sameTiles hkeeps hsame

/-- In every game on a canvas of its own the tiles and the counters agree after every call. Showing
and rendering change neither, and a tick that answers changes nothing, eats the food below the
player, or, if that was the last, restores the level and counts it as cleared. A tick answers as
long as the number of cleared levels can grow. -/
theorem accounts_balance {s : Session ρ δ} (h : Played s) :
    World.Balanced s.play ∧
      (∀ c : Call, c ≠ .tick → (c.run.run s).state.world = s.world ∧
        ∀ x y, (c.run.run s).state.stage.canvas.tile x y = s.stage.canvas.tile x y) ∧
      (((Call.run .tick).run s).result = .ok () ∧
          (World.Untouched s.play ((Call.run .tick).run s).state.play ∨
            World.Ate s.play ((Call.run .tick).run s).state.play ∨
            World.Refilled s.play ((Call.run .tick).run s).state.play) ∨
        ((Call.run .tick).run s).result = .error (.overflow .add) ∧
          Bounded.Width.bits32.count ≤ s.world.levelsCleared + 1) := by
  have hstocked := stocked_of_played h
  refine ⟨hstocked.balanced, ?_, ?_⟩
  · intro c hc
    obtain ⟨hworld, -, hsame⟩ := keeps_call c hc s
    exact ⟨hworld, Canvas.tile_congr hsame⟩
  · obtain ⟨hok, -, hcases⟩ | hfault := hstocked.tick
    · exact .inl ⟨hok, hcases⟩
    · exact .inr hfault

/-- The sheet of the maze. -/
def gameSheet : GridSheet :=
  (Sprites.sheet.toOption.bind Except.toOption).getD ⟨⟨0, 0, #[]⟩, 0, 0, 0, 0, .empty⟩

/-- A new world on a canvas of its own, before the level is copied to it. -/
def newGame : Session Xoshiro Recorder :=
  ⟨.start (.ofSeed 7), (Stage.fresh gameSheet.toSheet Recorder.fresh).after
    [.command (.setup World.mazeConfig)]⟩

theorem accounts_balance_newGame :
    let s := ((onPlay World.resetLevel).run newGame).state
    World.Balanced s.play ∧ s.world.foodLeft = 142 ∧ ((Call.run .tick).run s).result = .ok () := by
  have hsheet : Sprites.sheet = .ok (.ok gameSheet) := by
    obtain ⟨bytes, h⟩ := Sprites.exists_sheet
    rw [gameSheet, h]
    rfl
  have hactive : newGame.stage.canvas.active =
      some ⟨World.mazeConfig, ⟨⟨1⟩, ⟨2⟩, ⟨3⟩, ⟨4⟩⟩⟩ := by decide +kernel
  have hplayed : Played ((onPlay World.resetLevel).run newGame).state :=
    .begin (Xoshiro.ofSeed 7) Recorder.fresh hsheet [.command (.setup World.mazeConfig)] hactive rfl
  have hcleared : ((onPlay World.resetLevel).run newGame).state.world.levelsCleared = 0 := by
    decide +kernel
  obtain ⟨hbalanced, -, ⟨hok, -⟩ | ⟨-, hcount⟩⟩ := accounts_balance hplayed
  · exact ⟨hbalanced, by decide +kernel, hok⟩
  · rw [hcleared] at hcount
    exact absurd hcount (by decide)

end Session

end Mosaic
