import Mosaic.Proofs.Action.Shadow
import Mosaic.Proofs.Window.Frame

/-!
# Listing the calls to a scene changes nothing

An application whose scene lists its calls does at every event what it does with the scene alone
(`App.shadows_deliver`): it answers, notes and stops alike, and its state is the same but for the
list.
-/

namespace Mosaic

namespace App

open Mosaic.Action

variable {α β : Type} {scene : Scene α} {options : WindowOptions} {platform : Platform}

/-- The application without the calls to its scene. -/
def plain (app : App (Observed α)) : App α :=
  ⟨app.scene.state, app.live, app.clock, app.lastFrame, app.frames, app.error, app.ending⟩

theorem live_plain (app : App (Observed α)) : app.plain.live = app.live := rfl

theorem shadows_lend {action : Action (Shown (Observed α)) β} {shadow : Action (Shown α) β}
    (h : Shadows Shown.plain action shadow) (stage : Stage GpuDevice) :
    Shadows plain (lend stage action) (lend stage shadow) := by
  intro app
  have hshadow : shadow.run ⟨app.plain.scene, stage⟩ = _ := h ⟨app.scene, stage⟩
  rcases hrun : action.run ⟨app.scene, stage⟩ with ⟨result, shown, notes⟩
  rw [hrun] at hshadow
  rw [run_lend hrun, run_lend hshadow]
  cases result <;> rfl

theorem shadows_onShown {action : Action (Shown (Observed α)) β} {shadow : Action (Shown α) β}
    (h : Shadows Shown.plain action shadow) (live : Live) :
    Shadows plain (onShown live action) (onShown live shadow) := by
  intro app
  have hshadow : shadow.run ⟨app.plain.scene, live.stage⟩ = _ := h ⟨app.scene, live.stage⟩
  rcases hrun : action.run ⟨app.scene, live.stage⟩ with ⟨result, shown, notes⟩
  rw [hrun] at hshadow
  rw [run_onShown hrun]
  exact run_onShown hshadow

theorem shadows_stage (action : Action (Stage GpuDevice) β) :
    Shadows (Shown.plain (α := α)) (Shown.onStage action) (Shown.onStage action) := fun _ => rfl

theorem shadows_openStage (config : Config) :
    Shadows Shown.plain (openStage scene.observed config) (openStage scene config) := by
  refine shadows_orClean (shadows_bind (shadows_stage _) fun made => ?_) (shadows_stage _)
  cases made with
  | error e => exact shadows_pure _
  | ok u => exact shadows_bind scene.shadows_start fun _ => shadows_pure _

theorem shadows_openSurface (config : Config) (scale width height : Nat) :
    Shadows plain (openSurface scene.observed options platform config scale width height)
      (openSurface scene options platform config scale width height) := by
  refine shadows_bind (shadows_note _) fun _ => ?_
  cases platform.adapterFailure with
  | some reason => exact shadows_pure _
  | none =>
  refine shadows_bind (shadows_note _) fun _ => ?_
  cases platform.deviceFailure with
  | some reason => exact shadows_pure _
  | none =>
  cases platform.format with
  | none => exact shadows_pure _
  | some format =>
  refine shadows_bind (shadows_note _) fun _ => ?_
  refine shadows_bind (shadows_part scene.shadows_sheet (fun _ => rfl) fun _ _ => rfl)
    fun made => ?_
  cases made with
  | error e => exact shadows_pure _
  | ok sheet =>
  refine shadows_bind (shadows_lend (shadows_openStage config) _) fun opened => ?_
  rcases opened with ⟨e | u, stage⟩
  · exact shadows_pure _
  · refine shadows_bind (shadows_note _) fun _ => ?_
    exact shadows_bind (shadows_modify fun _ => rfl) fun _ => shadows_pure _

theorem shadows_openWindow :
    Shadows plain (openWindow scene.observed options platform)
      (openWindow scene options platform) := by
  refine shadows_get_bind fun app => ?_
  have hconfig : scene.observed.config app.scene = scene.config app.plain.scene := rfl
  rw [hconfig]
  generalize scene.config app.plain.scene = config
  dsimp only
  cases config.validate with
  | error e => exact shadows_pure _
  | ok u =>
  refine shadows_bind (shadows_ofExcept _) fun size => shadows_bind (shadows_note _) fun _ => ?_
  cases platform.windowFailure with
  | some reason => exact shadows_pure _
  | none =>
  refine shadows_orClean (shadows_bind (shadows_note _) fun _ => ?_) (shadows_note _)
  cases platform.surfaceFailure with
  | some reason => exact shadows_pure _
  | none => exact shadows_orClean (shadows_openSurface config _ _ _) (shadows_note _)

theorem shadows_exit : Shadows (plain (α := α)) exit exit :=
  shadows_bind (shadows_modify fun _ => rfl) fun _ => shadows_note _

theorem shadows_resume :
    Shadows plain (resume scene.observed options platform) (resume scene options platform) := by
  refine shadows_get_bind fun app => ?_
  rw [live_plain]
  split
  · exact shadows_pure _
  refine shadows_bind shadows_openWindow fun answer => ?_
  cases answer with
  | ok u => exact shadows_note _
  | error e =>
      refine shadows_bind (shadows_ofExcept _) fun reason => shadows_bind (shadows_note _) fun _ => ?_
      exact shadows_bind (shadows_modify fun _ => rfl) fun _ => shadows_exit

theorem shadows_acquireFrame : Shadows (plain (α := α)) acquireFrame acquireFrame :=
  shadows_get_bind fun _ => shadows_bind (shadows_modify fun _ => rfl) fun _ =>
    shadows_bind (shadows_note _) fun _ => shadows_pure _

theorem shadows_onStage (action : Action (Stage GpuDevice) Unit) :
    Shadows (plain (α := α)) (onStage action) (onStage action) := by
  refine shadows_get_bind fun app => ?_
  rw [live_plain]
  cases app.live with
  | none => exact shadows_pure _
  | some live => exact shadows_onShown (shadows_stage _) live

theorem shadows_redraw : Shadows plain (redraw scene.observed options) (redraw scene options) := by
  refine shadows_get_bind fun app => ?_
  have helapsed : app.plain.elapsed = app.elapsed := rfl
  rw [live_plain, helapsed]
  cases app.live with
  | none => exact shadows_pure _
  | some live =>
  refine shadows_bind (shadows_modify fun _ => rfl) fun _ => ?_
  refine shadows_bind (shadows_onShown (scene.shadows_frame _) live) fun go => ?_
  split
  · refine shadows_bind shadows_acquireFrame fun failure => ?_
    cases failure with
    | some failure =>
        refine shadows_bind (shadows_note _) fun _ => ?_
        refine shadows_bind (shadows_onStage _) fun _ => ?_
        exact shadows_bind (shadows_note _) fun _ => shadows_note _
    | none => exact shadows_bind (shadows_onStage _) fun _ => shadows_note _
  · exact shadows_exit

theorem shadows_resize (width height : Nat) :
    Shadows (plain (α := α)) (resize width height) (resize width height) := by
  refine shadows_get_bind fun app => ?_
  rw [live_plain]
  cases app.live with
  | none => exact shadows_pure _
  | some live =>
      refine shadows_bind (shadows_modify fun _ => rfl) fun _ => ?_
      exact shadows_bind (shadows_note _) fun _ => shadows_note _

theorem shadows_giveBack (last : Action (Stage GpuDevice) Unit) :
    Shadows (plain (α := α)) (giveBack last) (giveBack last) := by
  refine shadows_get_bind fun app => ?_
  rw [live_plain]
  cases app.live with
  | none => exact shadows_pure _
  | some live =>
      refine shadows_bind (shadows_onShown (shadows_stage _) live) fun _ => ?_
      refine shadows_bind (shadows_modify fun _ => rfl) fun _ => ?_
      exact shadows_bind (shadows_note _) fun _ => shadows_note _

/-- An event comes to the same, whether or not the calls to the scene are listed. -/
theorem shadows_deliver (event : WindowEvent) :
    Shadows plain (deliver scene.observed options platform event)
      (deliver scene options platform event) := by
  refine shadows_bind (shadows_note _) fun _ => ?_
  cases event with
  | resumed => exact shadows_resume
  | redraw elapsed => exact shadows_bind (shadows_modify fun _ => rfl) fun _ => shadows_redraw
  | resized width height => exact shadows_resize width height
  | close => exact shadows_exit
  | focused | destroyed => exact shadows_pure _
  | exiting => exact shadows_giveBack _

end App

end Mosaic
