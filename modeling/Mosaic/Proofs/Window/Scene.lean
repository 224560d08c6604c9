import Mosaic.Proofs.Action.Answer
import Mosaic.Proofs.Action.Shadow
import Mosaic.Proofs.Stage.Calls
import Mosaic.Window.Scene

/-!
# What a scene is asked and what it does

`Scene.observed` is a scene that lists how it is called, which is all that tells it from the scene
that it is made of (`Scene.shadows_start`, `Scene.shadows_frame`). A scene is `Modest` when its
start and its frames do no more to the stage than to ask and edit the canvas, so what it does
leaves the device alone and the canvas set up as it was (`Stage.silent_after`).
-/

namespace Mosaic

/-! ### Calls to a scene -/

/-- What is asked of a scene while its canvas is set up. -/
inductive SceneCall where
  | start
  | frame (elapsed : Nat)
  deriving DecidableEq

/-- The state of a scene with the calls to it. -/
structure Observed (α : Type) where
  state : α
  /-- The calls so far, latest first. -/
  calls : List SceneCall

namespace Shown

variable {α : Type}

/-- What is shown, without the calls. -/
def plain (shown : Shown (Observed α)) : Shown α := ⟨shown.scene.state, shown.stage⟩

end Shown

namespace Scene

variable {α β : Type}

/-- Lists a call and carries it out. -/
def observe (call : SceneCall) (action : Action (Shown α) β) : Action (Shown (Observed α)) β :=
  fun shown =>
    let outcome := action.run shown.plain
    ⟨outcome.result, ⟨⟨outcome.state.scene, call :: shown.scene.calls⟩, outcome.state.stage⟩,
      outcome.notes⟩

/-- The scene with its calls listed. -/
def observed (scene : Scene α) : Scene (Observed α) where
  config observed := scene.config observed.state
  sheet := scene.sheet.part Observed.state fun state observed => { observed with state := state }
  start := observe .start scene.start
  frame elapsed := observe (.frame elapsed) (scene.frame elapsed)

theorem shadows_sheet (scene : Scene α) :
    Action.Shadows Observed.state scene.observed.sheet scene.sheet := fun _ => rfl

theorem shadows_start (scene : Scene α) :
    Action.Shadows Shown.plain scene.observed.start scene.start := fun _ => rfl

theorem shadows_frame (scene : Scene α) (elapsed : Nat) :
    Action.Shadows Shown.plain (scene.observed.frame elapsed) (scene.frame elapsed) := fun _ => rfl

end Scene

/-! ### Doing nothing outside of the state -/

namespace Action

variable {σ : Type}

/-- There are no effects. -/
def Silent (_ : σ) (notes : List Note) (_ : σ) : Prop := effects notes = []

instance : IsTrace (σ := σ) Silent where
  refl _ := effects_nil
  trans _ _ _ _ _ h h' := by rw [Silent, effects_append, h, h', List.append_nil]

theorem silent_log (s : σ) (level : LogLevel) (text : String) : Silent s [.log level text] s := rfl

end Action

namespace Stage

variable {δ : Type} [Device δ]

theorem silent_command {c : Command} (h : ¬ c.AsksDevice) :
    Action.Traces Action.Silent (c.run : Action (Stage δ) Reply) := by
  have hedit : ∀ {action : Action Canvas Unit}, Action.Traces Canvas.Edits action →
      Action.Traces Action.Silent
        (do onCanvas action; return Reply.done : Action (Stage δ) Reply) := fun hedits stage =>
    traces_edit (R := Action.Silent) Action.silent_log hedits stage
  cases c with
  | setup | discard | render => exact absurd trivial h
  | copyText target text => exact hedit (Canvas.edits_copyText target text)
  | setTile sprite x y => exact hedit (Canvas.edits_setTile sprite x y)
  | setSprite slot sprite bounds => exact hedit (Canvas.edits_setSprite slot sprite bounds)
  | clear => exact hedit Canvas.edits_clear
  | updateVertices =>
      refine Action.traces_bind (fun stage => ?_) fun _ => Action.traces_query _
      exact effects_of_logs (Canvas.logsOnly_of_edits Canvas.edits_updateVertices stage.canvas)
  | config | geometry | clamp | tile | grid | occupied | sprite | activeSprites | vertices
  | resources | sheetCount => exact Action.traces_query _

/-- Commands that ask nothing of the device leave it alone, and the canvas set up as it was. -/
theorem silent_after {commands : List Command} (h : ∀ c ∈ commands, ¬ c.AsksDevice)
    (stage : Stage δ) :
    stage.KeepsDevice (stage.after (commands.map .command)) ∧
      stage.KeepsActive (stage.after (commands.map .command)) := by
  induction commands generalizing stage with
  | nil => exact ⟨rfl, rfl⟩
  | cons c commands ih =>
      have hc := h c List.mem_cons_self
      obtain ⟨hdevice, hactive⟩ :=
        ih (fun d hd => h d (List.mem_cons_of_mem _ hd)) (c.run.run stage).state
      exact ⟨trans_of KeepsDevice (device_command hc stage) hdevice,
        trans_of KeepsActive (active_of_not_asksDevice hc stage) hactive⟩

/-- Commands that ask nothing of the device lead from the one stage to the other. -/
def Edited (before after : Stage δ) : Prop :=
  ∃ commands : List Command, (∀ c ∈ commands, ¬ c.AsksDevice) ∧
    after = before.after (commands.map .command)

instance : IsPreorder (Stage δ) Edited where
  refl _ := ⟨[], nofun, rfl⟩
  trans s t u := by
    rintro ⟨first, hfirst, ht⟩ ⟨second, hsecond, hu⟩
    refine ⟨first ++ second, fun c hc => (List.mem_append.1 hc).elim (hfirst c) (hsecond c), ?_⟩
    rw [hu, ht, after, after, after, List.map_append, List.foldl_append]

theorem edited_command {c : Command} (h : ¬ c.AsksDevice) (stage : Stage δ) :
    stage.Edited (c.run.run stage).state := by
  refine ⟨[c], fun d hd => ?_, rfl⟩
  rwa [List.mem_singleton.1 hd]

end Stage

/-! ### Modest scenes -/

namespace Shown

variable {α β : Type}

/-- The canvas was only asked and edited, and nothing was done outside. -/
structure Edits (before : Shown α) (notes : List Note) (after : Shown α) : Prop where
  stage : before.stage.Edited after.stage
  silent : effects notes = []

instance : Action.IsTrace (Edits (α := α)) where
  refl shown := ⟨refl_of Stage.Edited shown.stage, effects_nil⟩
  trans _ _ _ _ _ h h' := ⟨trans_of Stage.Edited h.stage h'.stage, by
    rw [effects_append, h.silent, h'.silent, List.append_nil]⟩

/-- What a scene does with its own state alone. -/
theorem edits_onScene {action : Action α β} (h : Action.Traces Action.Silent action) :
    Action.Traces Edits (onScene action) :=
  fun shown => ⟨refl_of Stage.Edited shown.stage, h shown.scene⟩

theorem edits_command {c : Stage.Command} (h : ¬ c.AsksDevice) :
    Action.Traces (Edits (α := α)) (onStage c.run) :=
  fun shown => ⟨Stage.edited_command h shown.stage, Stage.silent_command h shown.stage⟩

end Shown

/-- The scene only asks and edits the canvas. -/
structure Scene.Modest {α : Type} (scene : Scene α) : Prop where
  start : Action.Traces Shown.Edits scene.start
  frame : ∀ elapsed, Action.Traces Shown.Edits (scene.frame elapsed)

end Mosaic
