import Mosaic.Maze.Program
import Mosaic.Proofs.Window.Scene

/-!
# The maze is a modest scene

All that the game does to its canvas is to copy the level, to empty tiles and to place actors, which
are commands that ask nothing of the device. So the maze is a scene that only asks and edits its
canvas (`Program.modest_scene`).
-/

namespace Mosaic

namespace Canvas

/-- On any device the canvas was taken from one state to the other by commands that ask nothing of
it, and nothing was done outside. -/
structure Commanded (before : Canvas) (notes : List Note) (after : Canvas) : Prop where
  edited : ∀ device : GpuDevice, Stage.Edited ⟨before, device⟩ ⟨after, device⟩
  silent : effects notes = []

instance : Action.IsTrace Commanded where
  refl _ := ⟨fun _ => refl_of Stage.Edited _, effects_nil⟩
  trans _ _ _ _ _ h h' := ⟨fun device => trans_of Stage.Edited (h.edited device) (h'.edited device),
    by rw [effects_append, h.silent, h'.silent, List.append_nil]⟩

/-- An edit that is a command. -/
theorem commanded_edit {c : Stage.Command} {action : Action Canvas Unit} (hasks : ¬ c.AsksDevice)
    (hrun : (c.run : Action (Stage GpuDevice) Stage.Reply) =
      (do Stage.onCanvas action; return Stage.Reply.done))
    (hedits : Action.Traces Edits action) : Action.Traces Commanded action := by
  refine fun canvas => ⟨fun device => ?_, effects_of_logs (hedits canvas).2⟩
  have h := Stage.edited_command hasks (⟨canvas, device⟩ : Stage GpuDevice)
  rw [hrun, Action.run_bind_pure] at h
  exact h

theorem commanded_setTile (sprite : Option SpriteId) (x y : Int) :
    Action.Traces Commanded (setTile sprite x y) :=
  commanded_edit (c := .setTile sprite x y) id rfl (edits_setTile sprite x y)

theorem commanded_setSprite (slot : Nat) (sprite : Option SpriteId) (bounds : Rect) :
    Action.Traces Commanded (setSprite slot sprite bounds) :=
  commanded_edit (c := .setSprite slot sprite bounds) id rfl (edits_setSprite slot sprite bounds)

theorem commanded_copyText (target : Rect) (text : List Char) :
    Action.Traces Commanded (copyText target text) :=
  commanded_edit (c := .copyText target text) id rfl (edits_copyText target text)

end Canvas

namespace World

variable {ρ : Type}

/-- The canvas of a play was commanded. -/
def Commands (before : Play ρ) (notes : List Note) (after : Play ρ) : Prop :=
  before.canvas.Commanded notes after.canvas

instance : Action.IsTrace (Commands (ρ := ρ)) where
  refl play := Action.IsTrace.refl play.canvas
  trans s t u := Action.IsTrace.trans s.canvas t.canvas u.canvas

theorem commands_onCanvas {α : Type} {action : Action Canvas α}
    (h : Action.Traces Canvas.Commanded action) :
    Action.Traces (Commands (ρ := ρ)) (onCanvas action) :=
  Action.traces_part h fun _ _ _ h => h

theorem commands_change (f : World ρ → World ρ) : Action.Traces Commands (change f) :=
  Action.traces_modify fun play => Action.IsTrace.refl play.canvas

theorem commands_resetLevel : Action.Traces (Commands (ρ := ρ)) resetLevel := by
  refine Action.traces_bind (commands_onCanvas (Canvas.commanded_copyText _ _)) fun _ => ?_
  refine Action.traces_bind (commands_change _) fun _ => Action.traces_note fun play => ?_
  exact ⟨fun _ => refl_of Stage.Edited _, rfl⟩

theorem commands_eat : Action.Traces (Commands (ρ := ρ)) eat := by
  refine Action.traces_bind Action.traces_get fun play => ?_
  dsimp only
  split
  · refine Action.traces_bind (commands_onCanvas (Action.traces_query _)) fun x => ?_
    refine Action.traces_bind (commands_onCanvas (Action.traces_query _)) fun y => ?_
    refine Action.traces_bind (commands_onCanvas (Action.traces_query _)) fun sprite => ?_
    split
    · exact Action.traces_bind (commands_onCanvas (Canvas.commanded_setTile _ _ _)) fun _ =>
        commands_change _
    · exact Action.traces_pure _
  · exact Action.traces_pure _

theorem commands_finishLevel : Action.Traces (Commands (ρ := ρ)) finishLevel := by
  refine Action.traces_bind Action.traces_get fun play => ?_
  split
  · refine Action.traces_bind (Action.traces_ofExcept _) fun cleared => ?_
    exact Action.traces_bind (commands_change _) fun _ => commands_resetLevel
  · exact Action.traces_pure _

theorem commands_sync : Action.Traces (Commands (ρ := ρ)) sync :=
  Action.traces_bind Action.traces_get fun _ => commands_onCanvas <|
    Action.traces_each fun _ _ => Canvas.commanded_setSprite _ _ _

variable [RandomSource ρ]

theorem commands_advance (a : Actor) (hungry : Bool) :
    Action.Traces (Commands (ρ := ρ)) (advance a hungry) := by
  rw [advance]
  split
  · refine Action.traces_bind (Action.traces_bind (Action.traces_query _) fun ways => ?_)
      fun heading => ?_
    · cases ways with
      | nil => exact Action.traces_pure _
      | cons first others =>
          refine Action.traces_bind Action.traces_get fun play => ?_
          exact Action.traces_bind (commands_change _) fun _ => Action.traces_pure _
    · dsimp only
      split
      · exact Action.traces_ofExcept _
      · exact Action.traces_pure _
  · exact Action.traces_ofExcept _

theorem commands_moveGhost (i : Nat) : Action.Traces (Commands (ρ := ρ)) (moveGhost i) := by
  refine Action.traces_bind Action.traces_get fun play => ?_
  cases play.world.ghosts[i]? with
  | none => exact Action.traces_pure _
  | some ghost => exact Action.traces_bind (commands_advance _ _) fun _ => commands_change _

theorem commands_tick : Action.Traces (Commands (ρ := ρ)) tick := by
  refine Action.traces_bind commands_eat fun _ => ?_
  refine Action.traces_bind (Action.traces_bind Action.traces_get fun _ =>
    Action.traces_bind (commands_advance _ _) fun _ => commands_change _) fun _ => ?_
  refine Action.traces_bind Action.traces_get fun play => ?_
  exact Action.traces_bind (Action.traces_each fun i _ => commands_moveGhost i) fun _ =>
    commands_finishLevel

end World

namespace Game

variable {ρ : Type}

/-- The canvas of a match was commanded. -/
def Commands (before : Match ρ) (notes : List Note) (after : Match ρ) : Prop :=
  before.canvas.Commanded notes after.canvas

instance : Action.IsTrace (Commands (ρ := ρ)) where
  refl m := Action.IsTrace.refl m.canvas
  trans s t u := Action.IsTrace.trans s.canvas t.canvas u.canvas

theorem commands_onPlay {α : Type} {action : Action (Play ρ) α}
    (h : Action.Traces World.Commands action) : Action.Traces Commands (onPlay action) :=
  Action.traces_part h fun _ _ _ h => h

theorem commands_setPending (time : Nat) : Action.Traces (Commands (ρ := ρ)) (setPending time) :=
  Action.traces_modify fun m => Action.IsTrace.refl m.canvas

theorem commands_begin : Action.Traces (Commands (ρ := ρ)) begin :=
  Action.traces_bind (commands_onPlay World.commands_resetLevel) fun _ =>
    commands_onPlay World.commands_sync

variable [RandomSource ρ]

theorem commands_catchUp (left : Nat) : Action.Traces (Commands (ρ := ρ)) (catchUp left) := by
  induction left with
  | zero => exact Action.traces_pure _
  | succ left ih =>
      refine Action.traces_bind Action.traces_get fun m => ?_
      split
      · refine Action.traces_bind (commands_setPending _) fun _ => ?_
        refine Action.traces_bind (commands_onPlay World.commands_tick) fun _ => ?_
        exact Action.traces_bind ih fun _ => Action.traces_pure _
      · exact Action.traces_pure _

theorem commands_frame (elapsed : Nat) : Action.Traces (Commands (ρ := ρ)) (frame elapsed) := by
  refine Action.traces_bind Action.traces_get fun m => ?_
  refine Action.traces_bind (commands_setPending _) fun _ => ?_
  refine Action.traces_bind (commands_catchUp _) fun ticks => ?_
  split
  · exact Action.traces_bind (commands_setPending _) fun _ => commands_onPlay World.commands_sync
  · exact commands_onPlay World.commands_sync

end Game

namespace Program

variable {ρ : Type}

theorem edits_onMatch {α : Type} {action : Action (Match ρ) α}
    (h : Action.Traces Game.Commands action) : Action.Traces Shown.Edits (onMatch action) :=
  fun shown =>
    have hm := h ⟨shown.scene, shown.stage.canvas⟩
    ⟨hm.edited shown.stage.device, hm.silent⟩

/-- The maze only asks and edits its canvas. -/
theorem modest_scene [RandomSource ρ] : (scene (ρ := ρ)).Modest where
  start := edits_onMatch Game.commands_begin
  frame elapsed := Action.traces_bind (edits_onMatch (Game.commands_frame elapsed)) fun _ =>
    Action.traces_pure _

end Program

end Mosaic
