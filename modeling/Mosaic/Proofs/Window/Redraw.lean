import Mosaic.Proofs.Window.Frame

/-!
# What a redraw comes to

A redraw of an open window asks the scene for a picture, with the time since the last time it was
asked. From there on it ends in one of four ways: the scene stops, the scene asks to quit, the frame
cannot be had, or the stage is presented. Where the stage stops while it is presented, so does the
redraw.
-/

namespace Mosaic

namespace App

variable {α : Type} {scene : Scene α} {options : WindowOptions} {app : App α} {live : Live}

/-- The application after its scene was asked for a picture. -/
def asked (app : App α) (live : Live) (shown : Shown α) : App α :=
  { app with
    scene := shown.scene
    live := some { live with stage := shown.stage }
    lastFrame := some app.clock }

theorem run_redraw_of_closed (h : app.live = none) :
    (redraw scene options).run app = ⟨.ok (), app, []⟩ := by
  rw [redraw, Action.run_get_bind, h]
  rfl

/-- What a redraw does with the next frame of the surface. -/
def showFrame (options : WindowOptions) (surface : SurfaceConfig) : Action (App α) Unit := do
  match ← acquireFrame with
  | some failure =>
    let reason := failure.message
    Action.log .warn s!"surface texture unavailable: {reason}"
    onStage (Stage.onDevice GpuDevice.discardPending)
    Action.ask (.configure surface)
    Action.ask .requestRedraw
  | none =>
    onStage (present options surface)
    Action.ask .requestRedraw

section Asked

variable {shown : Shown α} {notes : List Note}

theorem run_redraw_of_fault (hlive : app.live = some live) {fault : Fault}
    (h : (scene.frame app.elapsed).run ⟨app.scene, live.stage⟩ = ⟨.error fault, shown, notes⟩) :
    (redraw scene options).run app = ⟨.error fault, app.asked live shown, notes⟩ := by
  have hframe : (onShown live (scene.frame app.elapsed)).run
      { app with lastFrame := some app.clock } = ⟨.error fault, app.asked live shown, notes⟩ :=
    run_onShown h
  rw [redraw, Action.run_get_bind, hlive]
  exact Action.run_bind_of_error hframe _

/-- Once the scene has answered, the frame is shown or the end is asked for. -/
theorem run_redraw_of_asked (hlive : app.live = some live) {go : Bool}
    (h : (scene.frame app.elapsed).run ⟨app.scene, live.stage⟩ = ⟨.ok go, shown, notes⟩) :
    (redraw scene options).run app =
      let rest := (if go then showFrame options live.surface else exit).run (app.asked live shown)
      ⟨rest.result, rest.state, notes ++ rest.notes⟩ := by
  have hframe : (onShown live (scene.frame app.elapsed)).run
      { app with lastFrame := some app.clock } = ⟨.ok go, app.asked live shown, notes⟩ :=
    run_onShown h
  rw [redraw, Action.run_get_bind, hlive]
  exact Action.run_bind_of_ok hframe _

end Asked

/-! ### Showing a frame -/

section Showing

variable {surface : SurfaceConfig}

theorem run_acquireFrame (app : App α) :
    acquireFrame.run app = ⟨.ok app.frames.head?.join, { app with frames := app.frames.tail },
      [.window (.acquireFrame app.frames.head?.join)]⟩ := rfl

/-- A frame that cannot be had leaves a stage on which no draw waits as it is, and the surface is
set up again as it was. -/
theorem run_showFrame_of_failure (options : WindowOptions) (surface : SurfaceConfig)
    (hlive : app.live = some live) (hpending : live.stage.device.pending = .empty)
    {failure : FrameError} (hframe : app.frames.head?.join = some failure) :
    (showFrame options surface).run app = ⟨.ok (), { app with frames := app.frames.tail },
      [.window (.acquireFrame (some failure)),
        .log .warn s!"surface texture unavailable: {failure.message}",
        .window (.configure surface), .window .requestRedraw]⟩ := by
  have hdiscard : (Stage.onDevice GpuDevice.discardPending).run live.stage =
      ⟨.ok (), live.stage, []⟩ := by
    rw [Stage.onDevice, Action.run_part, GpuDevice.run_discardPending_of_empty hpending]
  let acquired : App α := { app with frames := app.frames.tail }
  have hstage : (onStage (Stage.onDevice GpuDevice.discardPending)).run acquired =
      ⟨.ok (), acquired, []⟩ := by
    have hacquired : acquired.live = some live := hlive
    rw [run_onStage hacquired hdiscard, ← hacquired]
  rw [showFrame, Action.run_bind_of_ok (run_acquireFrame app), hframe]
  dsimp only
  rw [Action.run_log_bind, Action.run_bind_of_silent hstage]
  rfl

/-- What is asked for after a stage was presented. -/
def nextRequest : Except Fault Unit → List Note
  | .ok _ => [.window .requestRedraw]
  | .error _ => []

theorem run_showFrame_of_presented (hlive : app.live = some live) {result : Except Fault Unit}
    {stage : Stage GpuDevice} {notes : List Note} (hframe : app.frames.head?.join = none)
    (hpresent : (present options surface).run live.stage = ⟨result, stage, notes⟩) :
    (showFrame options surface).run app = ⟨result,
      { app with frames := app.frames.tail, live := some { live with stage := stage } },
      .window (.acquireFrame none) :: (notes ++ nextRequest result)⟩ := by
  let acquired : App α := { app with frames := app.frames.tail }
  have hacquired : acquired.live = some live := hlive
  have hstage := run_onStage hacquired hpresent
  rw [showFrame, Action.run_bind_of_ok (run_acquireFrame app), hframe]
  dsimp only
  rw [Action.run_bind, hstage]
  cases result with
  | error fault =>
      rw [nextRequest, List.append_nil]
      rfl
  | ok u => rfl

end Showing

section Acquired

variable {shown : Shown α} {notes : List Note}

theorem run_redraw_of_failure (options : WindowOptions) (hlive : app.live = some live)
    (h : (scene.frame app.elapsed).run ⟨app.scene, live.stage⟩ = ⟨.ok true, shown, notes⟩)
    (hpending : shown.stage.device.pending = .empty) {failure : FrameError}
    (hnext : app.frames.head?.join = some failure) :
    (redraw scene options).run app =
      ⟨.ok (), { app.asked live shown with frames := app.frames.tail },
        notes ++ [.window (.acquireFrame (some failure)),
          .log .warn s!"surface texture unavailable: {failure.message}",
          .window (.configure live.surface), .window .requestRedraw]⟩ := by
  have hasked : (app.asked live shown).live = some ⟨shown.stage, live.surface⟩ := rfl
  rw [run_redraw_of_asked hlive h, if_pos rfl,
    run_showFrame_of_failure options live.surface hasked hpending hnext]
  rfl

theorem run_redraw_of_presented (hlive : app.live = some live)
    (h : (scene.frame app.elapsed).run ⟨app.scene, live.stage⟩ = ⟨.ok true, shown, notes⟩)
    (hnext : app.frames.head?.join = none) {result : Except Fault Unit}
    {stage : Stage GpuDevice} {more : List Note}
    (hpresent : (present options live.surface).run shown.stage = ⟨result, stage, more⟩) :
    (redraw scene options).run app =
      ⟨result, { app.asked live ⟨shown.scene, stage⟩ with frames := app.frames.tail },
        notes ++ .window (.acquireFrame none) :: (more ++ nextRequest result)⟩ := by
  have hasked : (app.asked live shown).live = some ⟨shown.stage, live.surface⟩ := rfl
  rw [run_redraw_of_asked hlive h, if_pos rfl, run_showFrame_of_presented hasked hnext hpresent]
  rfl

end Acquired

/-! ### The application after a redraw -/

/-- However a redraw of an open window ends, the scene was asked once, with the time since it was
asked before, and the surface is set up as it was. Unless the redraw stopped, the stage stays
equipped. -/
theorem redraw_of_open (hscene : scene.Modest) (options : WindowOptions) (hlive : app.live = some live)
    (h : live.stage.Equipped) :
    ∃ stage frames ending,
      ((redraw scene options).run app).state =
        { app.asked live
            ⟨((scene.frame app.elapsed).run ⟨app.scene, live.stage⟩).state.scene, stage⟩ with
          frames := frames
          ending := ending } ∧
      (((redraw scene options).run app).result = .ok () → stage.Equipped) := by
  have hedits := hscene.frame app.elapsed ⟨app.scene, live.stage⟩
  rcases hframe : (scene.frame app.elapsed).run ⟨app.scene, live.stage⟩ with
    ⟨fault | go, shown, notes⟩
  · rw [run_redraw_of_fault hlive hframe]
    exact ⟨shown.stage, app.frames, app.ending, rfl, nofun⟩
  rw [hframe] at hedits
  have hshown : shown.stage.Equipped := h.edits hedits
  cases go with
  | false =>
      rw [run_redraw_of_asked hlive hframe]
      exact ⟨shown.stage, app.frames, true, rfl, fun _ => hshown⟩
  | true =>
  cases hnext : app.frames.head?.join with
  | some failure =>
      rw [run_redraw_of_failure options hlive hframe hshown.pending hnext]
      exact ⟨shown.stage, app.frames.tail, app.ending, rfl, fun _ => hshown⟩
  | none =>
      have hpresent := hshown.present options live.surface
      rcases hrun : (present options live.surface).run shown.stage with ⟨result, stage, more⟩
      rw [hrun] at hpresent
      rw [run_redraw_of_presented hlive hframe hnext hrun]
      exact ⟨stage, app.frames.tail, app.ending, rfl, hpresent⟩

end App

end Mosaic
