import Mosaic.Proofs.Canvas.Block
import Mosaic.Proofs.Stage.Calls
import Mosaic.Proofs.Stage.Layout

/-!
# What a command writes

Each command that is completed writes some tiles and some slots and leaves the others alone:
`Command.tileWrite` and `Command.slotWrite` say which and what, without looking at the canvas. A
command that stops, or that is refused, writes nothing. `writes_command` says so for every command
to a canvas that is set up, on a sheet on which names lead to sprites. The one exception is to
discard the canvas, after which no tile can be asked for.
-/

namespace Mosaic

namespace Stage

/-- What a completed command leaves in the tile at `(x, y)`, when it writes that tile. -/
def Command.tileWrite (sheet : Sheet) (x y : Int) : Command → Option (Option SpriteId)
  | .setup _ | .clear => some none
  | .setTile shown x' y' => if x' = x ∧ y' = y then some shown else none
  | .copyText target text =>
    if target.Spans x y then some ((text[target.number x y]?).map sheet.spriteFor).join else none
  | _ => none

/-- What a completed command leaves in a slot, when it writes that slot. -/
def Command.slotWrite (slot : Nat) : Command → Option (Option Sprite)
  | .setup _ | .clear => some none
  | .setSprite slot' shown bounds =>
    if slot' = slot then some (shown.map fun id => ⟨id, bounds⟩) else none
  | _ => none

variable {δ : Type}

/-- An edit of the canvas alone is carried out on the canvas. -/
theorem run_edit (action : Action Canvas Unit) (stage : Stage δ) :
    (do onCanvas action; return Reply.done : Action (Stage δ) Reply).run stage =
      ⟨(fun _ => Reply.done) <$> (action.run stage.canvas).result,
        { stage with canvas := (action.run stage.canvas).state },
        (action.run stage.canvas).notes⟩ := by
  rw [Action.run_bind_pure]
  rfl

variable [Device δ]

/-- A command is completed when it answers, and what it answers is not an error. -/
def Command.completes (stage : Stage δ) (c : Command) : Bool :=
  match (c.run.run stage).result with
  | .error _ | .ok (.setup (.error _)) => false
  | .ok _ => true

/-- A command leaves in each tile and each slot what it writes there, if it is completed, and what
was there before otherwise. -/
structure Writes (stage : Stage δ) (c : Command) (a : Active) : Prop where
  tile : ∀ x y, (x, y) ∈ a.config.grid →
    (c.run.run stage).state.canvas.stored (a.config.index x y) =
      (if c.completes stage then c.tileWrite stage.canvas.sheet x y else none).getD
        (stage.canvas.stored (a.config.index x y))
  slot : ∀ slot < a.config.slots,
    (c.run.run stage).state.canvas.slotted slot =
      (if c.completes stage then c.slotWrite slot else none).getD (stage.canvas.slotted slot)

variable {stage : Stage δ} {c : Command} {a : Active}

/-- A command that changes neither tiles nor slots, and would write none if it were completed. -/
theorem writes_of_keeps (htiles : (c.run.run stage).state.canvas.tiles = stage.canvas.tiles)
    (hslots : (c.run.run stage).state.canvas.slots = stage.canvas.slots)
    (hnothing : c.completes stage = true →
      (∀ x y, c.tileWrite stage.canvas.sheet x y = none) ∧ ∀ slot, c.slotWrite slot = none) :
    stage.Writes c a := by
  cases hc : c.completes stage with
  | false =>
      constructor
      · intro x y _
        simp [hc, Canvas.stored, htiles]
      · intro slot _
        simp [hc, Canvas.slotted, hslots]
  | true =>
      obtain ⟨htile, hslot⟩ := hnothing hc
      constructor
      · intro x y _
        simp [htile, Canvas.stored, htiles]
      · intro slot _
        simp [hslot, Canvas.slotted, hslots]

/-- A command that stops and changes nothing. -/
theorem writes_of_error {fault : Fault} {notes : List Note}
    (hrun : c.run.run stage = ⟨.error fault, stage, notes⟩) : stage.Writes c a := by
  refine writes_of_keeps (by rw [hrun]) (by rw [hrun]) fun hc => ?_
  simp [Command.completes, hrun] at hc

/-- A command that is done and leaves in each tile and each slot what it writes there. -/
theorem writes_of_done {after : Stage δ} {notes : List Note}
    (hrun : c.run.run stage = ⟨.ok .done, after, notes⟩)
    (htile : ∀ x y, (x, y) ∈ a.config.grid → after.canvas.stored (a.config.index x y) =
      (c.tileWrite stage.canvas.sheet x y).getD (stage.canvas.stored (a.config.index x y)))
    (hslot : ∀ slot, after.canvas.slotted slot =
      (c.slotWrite slot).getD (stage.canvas.slotted slot)) : stage.Writes c a := by
  have hdone : c.completes stage = true := by simp only [Command.completes, hrun]
  constructor
  · intro x y hgrid
    rw [hrun, hdone, if_pos rfl]
    exact htile x y hgrid
  · intro slot _
    rw [hrun, hdone, if_pos rfl]
    exact hslot slot

theorem writes_copyText (h : stage.canvas.active = some a) (hsound : stage.canvas.Sound)
    (hclosed : stage.canvas.sheet.Closed) (target : Rect) (text : List Char) :
    stage.Writes (.copyText target text) a := by
  have hrun := run_edit (Canvas.copyText target text) stage
  obtain ⟨fault, hcopy⟩ | ⟨hsize, hlength⟩ := Canvas.run_copyText_cases h target text
  · rw [hcopy] at hrun
    exact writes_of_error hrun
  · obtain ⟨_, notes, hcopy, ⟨tiles, -, rfl⟩, hcells⟩ :=
      Canvas.run_copyText_of_closed h hsound hclosed hsize hlength
    rw [hcopy] at hrun
    refine writes_of_done hrun (fun x y hgrid => (hcells x y hgrid).trans ?_) fun slot => rfl
    rw [Command.tileWrite]
    split <;> rfl

theorem writes_setTile (h : stage.canvas.active = some a) (hsound : stage.canvas.Sound)
    (sprite : Option SpriteId) (x y : Int) : stage.Writes (.setTile sprite x y) a := by
  have hrun := run_edit (Canvas.setTile sprite x y) stage
  obtain ⟨fault, hset⟩ | ⟨i, hi, -, hset⟩ := Canvas.run_setTile_cases sprite x y stage.canvas
  · rw [hset] at hrun
    exact writes_of_error hrun
  · rw [hset] at hrun
    obtain ⟨hmem, rfl⟩ := (Canvas.tileIndex_eq_ok_iff h).1 hi
    have hmem' : (x, y) ∈ a.config.grid := Config.mem_grid.2 hmem
    have hplace : a.config.index x y < stage.canvas.tiles.size :=
      Nat.lt_of_lt_of_le (Config.index_lt_of_mem_grid hmem') (hsound.cells_le_size h)
    refine writes_of_done hrun (fun x' y' hgrid => ?_) fun slot => rfl
    rw [Command.tileWrite]
    split
    · rename_i heq
      obtain ⟨rfl, rfl⟩ := heq
      exact Canvas.stored_put_self hplace sprite
    · rename_i hne
      exact Canvas.stored_put_of_ne (fun hi => hne ((Config.index_inj hmem' hgrid).1 hi)) _ _

theorem writes_setSprite (h : stage.canvas.active = some a) (hsound : stage.canvas.Sound)
    (slot : Nat) (sprite : Option SpriteId) (bounds : Rect) :
    stage.Writes (.setSprite slot sprite bounds) a := by
  have hrun := run_edit (Canvas.setSprite slot sprite bounds) stage
  obtain ⟨fault, hset⟩ | ⟨hslot, -, hset⟩ :=
    Canvas.run_setSprite_cases slot sprite bounds stage.canvas
  · rw [hset] at hrun
    exact writes_of_error hrun
  · rw [hset] at hrun
    have hplace : slot < stage.canvas.slots.size :=
      Nat.lt_of_lt_of_le ((Canvas.checkSlot_eq_ok_iff h).1 hslot) (hsound.slots_le_size h)
    refine writes_of_done hrun (fun x y _ => rfl) fun slot' => ?_
    rw [Command.slotWrite]
    split
    · rename_i heq
      subst heq
      exact Canvas.slotted_place_self hplace _
    · rename_i hne
      exact Canvas.slotted_place_of_ne hne _ _

theorem writes_clear (h : stage.canvas.active = some a) : stage.Writes .clear a := by
  have hrun := run_edit Canvas.clear stage
  rw [Canvas.run_clear_of_active h] at hrun
  exact writes_of_done hrun (fun x y _ => Canvas.stored_emptied stage.canvas _)
    (Canvas.slotted_emptied stage.canvas)

theorem keepsCells_updateVertices (stage : Stage δ) :
    stage.KeepsCells (Command.updateVertices.run.run stage).state := by
  rw [state_updateVertices]
  exact Canvas.follows_keepsCells_updateVertices stage.canvas

theorem keepsCells_render (stage : Stage δ) :
    stage.KeepsCells (Command.render.run.run stage).state := by
  rw [Command.run, Action.run_bind_pure]
  exact follows_keepsCells_render stage

theorem writes_of_keepsCells (hcells : stage.KeepsCells (c.run.run stage).state)
    (htile : ∀ x y, c.tileWrite stage.canvas.sheet x y = none)
    (hslot : ∀ slot, c.slotWrite slot = none) : stage.Writes c a := by
  obtain ⟨arena, hcells⟩ := hcells
  exact writes_of_keeps (by rw [hcells]) (by rw [hcells]) fun _ => ⟨htile, hslot⟩

theorem run_setup_command_of_active (h : stage.canvas.active = some a) (g : Config) :
    (Command.setup g).run.run stage = ⟨.ok (.setup (.error .alreadyValid)), stage, []⟩ := by
  rw [Command.run, Action.run_map, run_setup_of_active h]
  rfl

/-- A canvas that is set up stays so, as it is, until it is discarded. -/
theorem active_of_set (h : stage.canvas.active = some a) (hdiscard : c ≠ .discard) :
    (c.run.run stage).state.canvas.active = some a := by
  by_cases hsetup : ∃ g, c = .setup g
  · obtain ⟨g, rfl⟩ := hsetup
    rw [run_setup_command_of_active h]
    exact h
  · exact (active_command (fun g hg => hsetup ⟨g, hg⟩) hdiscard stage).trans h

theorem writes_command (h : stage.canvas.active = some a) (hsound : stage.canvas.Sound)
    (hclosed : stage.canvas.sheet.Closed) (hdiscard : c ≠ .discard) : stage.Writes c a := by
  cases c with
  | setup g =>
      have hrun := run_setup_command_of_active h g
      refine writes_of_keeps (by rw [hrun]) (by rw [hrun]) fun hc => ?_
      simp [Command.completes, hrun] at hc
  | discard => exact absurd rfl hdiscard
  | copyText target text => exact writes_copyText h hsound hclosed target text
  | setTile sprite x y => exact writes_setTile h hsound sprite x y
  | setSprite slot sprite bounds => exact writes_setSprite h hsound slot sprite bounds
  | clear => exact writes_clear h
  | updateVertices =>
      exact writes_of_keepsCells (keepsCells_updateVertices stage) (fun _ _ => rfl) fun _ => rfl
  | render => exact writes_of_keepsCells (keepsCells_render stage) (fun _ _ => rfl) fun _ => rfl
  | config | geometry | clamp | tile | grid | occupied | sprite | activeSprites | vertices
  | resources | sheetCount =>
      exact writes_of_keeps rfl rfl fun _ => ⟨fun _ _ => rfl, fun _ => rfl⟩

/-- A tile that a command does not write stays as it is. -/
theorem tile_command (h : stage.canvas.active = some a) (hsound : stage.canvas.Sound)
    (hclosed : stage.canvas.sheet.Closed) (hdiscard : c ≠ .discard) {x y : Int}
    (hgrid : (x, y) ∈ a.config.grid)
    (hc : c.completes stage = true → c.tileWrite stage.canvas.sheet x y = none) :
    (c.run.run stage).state.canvas.tile x y = stage.canvas.tile x y := by
  obtain ⟨⟨hx, hx'⟩, hy, hy'⟩ := Config.mem_grid.1 hgrid
  rw [Canvas.tile_of_mem (active_of_set h hdiscard) hx hx' hy hy',
    Canvas.tile_of_mem h hx hx' hy hy',
    (writes_command h hsound hclosed hdiscard).tile x y hgrid, ite_eq_right_iff.2 hc,
    Option.getD_none]

/-- A slot that a command does not write stays as it is. -/
theorem sprite_command (h : stage.canvas.active = some a) (hsound : stage.canvas.Sound)
    (hclosed : stage.canvas.sheet.Closed) (hdiscard : c ≠ .discard) {slot : Nat}
    (hslot : slot < a.config.slots)
    (hc : c.completes stage = true → c.slotWrite slot = none) :
    (c.run.run stage).state.canvas.sprite slot = stage.canvas.sprite slot := by
  rw [Canvas.sprite_of_lt (active_of_set h hdiscard) hslot, Canvas.sprite_of_lt h hslot,
    (writes_command h hsound hclosed hdiscard).slot slot hslot, ite_eq_right_iff.2 hc,
    Option.getD_none]

end Stage

end Mosaic
