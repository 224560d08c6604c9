import Mosaic.Canvas.Command
import Mosaic.Proofs.Canvas.Pictures

/-!
# Runs of a stage

A run of a stage is a list of events: commands to its canvas, and calls to its device that go past
the canvas. `Stage.after` is the stage that a run leads to. A command that stops or answers an error
counts with the state that it had reached. Whatever the run, a canvas that was sound stays sound and
keeps its sheet (`keeps_after`), because each step of each command does.
-/

namespace Mosaic

namespace Stage

variable {δ : Type}

/-- What can happen to a stage. -/
inductive Event (δ : Type) where
  /-- A command to the canvas. -/
  | command (command : Command)
  /-- A call to the device that the canvas has no part in. -/
  | device (call : Action δ Unit)

/-- The stage after an event. -/
def Event.apply [Device δ] (stage : Stage δ) : Event δ → Stage δ
  | .command c => (c.run.run stage).state
  | .device call => ((onDevice call).run stage).state

/-- The stage after the events of a run. -/
def after [Device δ] (stage : Stage δ) (events : List (Event δ)) : Stage δ :=
  events.foldl Event.apply stage

/-- The canvas keeps its sheet, and stays sound if it was. -/
def Keeps (before after : Stage δ) : Prop := before.canvas.Keeps after.canvas

instance : IsPreorder (Stage δ) Keeps where
  refl stage := refl_of Canvas.Keeps stage.canvas
  trans _ _ _ hab hbc := trans_of Canvas.Keeps hab hbc

theorem follows_onCanvas {α : Type} {action : Action Canvas α}
    (h : Action.Follows Canvas.Keeps action) :
    Action.Follows Keeps (onCanvas action : Action (Stage δ) α) :=
  Action.follows_part h fun _ _ hkeeps => hkeeps

theorem follows_onDevice {α : Type} (action : Action δ α) :
    Action.Follows Keeps (onDevice action) := fun stage => refl_of Canvas.Keeps stage.canvas

theorem follows_edit {action : Action Canvas Unit} (h : Action.Follows Canvas.Keeps action) :
    Action.Follows Keeps (do onCanvas action; return Reply.done : Action (Stage δ) Reply) :=
  Action.follows_bind (follows_onCanvas h) fun _ => Action.follows_pure _

theorem keeps_opened {c : Config} (hvalid : c.Valid) (resources : ResourceSet) (canvas : Canvas) :
    canvas.Keeps (opened c resources canvas) := by
  refine ⟨rfl, fun h => ?_⟩
  refine Canvas.sound_of_empty Array.size_replicate Array.size_replicate h.capacity
    Arena.Whole.clear (Canvas.stored_emptied canvas) (Canvas.slotted_emptied canvas) ?_
  intro a ha
  cases ha
  exact hvalid

theorem keeps_closed (canvas : Canvas) : canvas.Keeps (closed canvas) :=
  ⟨rfl, fun h => { h with
    whole := Arena.Whole.clear
    fits := fun a ha => by cases ha }⟩

theorem keeps_deactivated (canvas : Canvas) : canvas.Keeps { canvas with active := none } :=
  ⟨rfl, fun h => { h with fits := fun a ha => by cases ha }⟩

variable [Device δ]

theorem follows_setup (c : Config) :
    Action.Follows Keeps (setup c : Action (Stage δ) (Except SetupError Unit)) := by
  refine Action.follows_bind Action.follows_get fun stage => ?_
  split
  · exact Action.follows_pure _
  · cases hvalidate : c.validate with
    | error e => exact Action.follows_pure _
    | ok u =>
        refine Action.follows_bind (follows_onDevice _) fun acquired => ?_
        cases acquired with
        | error e => exact Action.follows_pure _
        | ok resources =>
            have hvalid := Config.validate_eq_ok_iff.1 hvalidate
            refine Action.follows_bind (follows_onCanvas ?_) fun _ => ?_
            · exact Action.follows_modify (keeps_opened hvalid resources)
            refine Action.follows_bind (Action.follows_ofExcept _) fun width => ?_
            refine Action.follows_bind (Action.follows_ofExcept _) fun height => ?_
            refine Action.follows_bind (Action.follows_log _ _) fun _ => ?_
            exact Action.follows_pure _

theorem follows_discard : Action.Follows Keeps (discard : Action (Stage δ) Unit) := by
  refine Action.follows_bind Action.follows_get fun stage => ?_
  cases stage.canvas.active with
  | none => exact Action.follows_log _ _
  | some a =>
      refine Action.follows_bind (follows_onCanvas ?_) fun _ => ?_
      · exact Action.follows_modify keeps_deactivated
      refine Action.follows_bind (follows_onDevice _) fun _ => ?_
      refine Action.follows_bind (follows_onCanvas ?_) fun _ => Action.follows_log _ _
      exact Action.follows_modify keeps_closed

theorem follows_render : Action.Follows Keeps (render : Action (Stage δ) Unit) := by
  refine Action.follows_bind (follows_onCanvas (Action.follows_query _)) fun a => ?_
  refine Action.follows_bind (follows_onCanvas Canvas.follows_updateVertices) fun _ => ?_
  refine Action.follows_bind Action.follows_get fun stage => ?_
  refine Action.follows_bind (Action.follows_log _ _) fun _ => ?_
  exact Action.follows_bind (follows_onDevice _) fun _ => follows_onDevice _

theorem follows_command (c : Command) : Action.Follows Keeps (c.run : Action (Stage δ) Reply) := by
  cases c with
  | setup c => exact Action.follows_map (follows_setup c) _
  | discard => exact Action.follows_bind follows_discard fun _ => Action.follows_pure _
  | copyText target text => exact follows_edit (Canvas.follows_copyText target text)
  | setTile sprite x y => exact follows_edit (Canvas.follows_setTile sprite x y)
  | setSprite slot sprite bounds =>
      exact follows_edit (Canvas.follows_setSprite slot sprite bounds)
  | clear => exact follows_edit Canvas.follows_clear
  | updateVertices =>
      exact Action.follows_bind (follows_onCanvas Canvas.follows_updateVertices) fun _ =>
        Action.follows_query _
  | render => exact Action.follows_bind follows_render fun _ => Action.follows_pure _
  | config | geometry | clamp | tile | grid | occupied | sprite | activeSprites | vertices
  | resources | sheetCount => exact Action.follows_query _

theorem keeps_apply (stage : Stage δ) (event : Event δ) : stage.Keeps (event.apply stage) := by
  cases event with
  | command c => exact follows_command c stage
  | device call => exact follows_onDevice call stage

theorem keeps_after (stage : Stage δ) (events : List (Event δ)) :
    stage.Keeps (stage.after events) := by
  induction events generalizing stage with
  | nil => exact refl_of Keeps stage
  | cons event events ih => exact trans_of Keeps (keeps_apply stage event) (ih (event.apply stage))

end Stage

end Mosaic
