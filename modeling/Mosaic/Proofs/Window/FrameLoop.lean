import Mosaic.Proofs.Window.History
import Mosaic.Proofs.Window.Listing

/-!
# The frame loop

Whatever events come and whatever fails, the scene of a window is asked to start once when the
window was opened and for one picture at each redraw of it, with the time since the one before. Each
of these redraws ends in one of three ways, of which each leaves no draw behind: the end is asked
for, the surface is set up again, or one pass of the whole canvas is shown (`App.frame_loop`).
-/

namespace Mosaic

namespace App

variable {α : Type}

/-- What a redraw of an open window comes to. The scene is passed a time and answers as in
`asked`. -/
structure Redrawn (options : WindowOptions) (app : App (Observed α)) (live : Live)
    (event : WindowEvent) (passed : Nat) (asked : Outcome (Shown α) Bool)
    (outcome : Outcome (App (Observed α)) Unit) : Prop where
  /-- The scene is asked for one picture. -/
  scene : outcome.state.scene = ⟨asked.state.scene, .frame passed :: app.scene.calls⟩
  /-- The scene leaves its canvas set up, with its resources and no draw waiting. -/
  equipped : asked.state.stage.Equipped
  /-- A scene that stops stops the redraw, and nothing is done outside. -/
  stopped : ∀ fault, asked.result = .error fault →
    outcome.result = .error fault ∧ effects outcome.notes = [.window (.event event)]
  /-- A scene that answers so asks for the end, and for nothing else. -/
  quit : asked.result = .ok false →
    outcome.result = .ok () ∧ outcome.state.ending = true ∧
      outcome.state.live = some ⟨asked.state.stage, live.surface⟩ ∧
      effects outcome.notes = [.window (.event event), .window .exit]
  /-- Where the frame cannot be had the surface is set up again as it was, and a redraw is asked
  for. -/
  unavailable : asked.result = .ok true → ∀ failure, app.frames.head?.join = some failure →
    outcome.result = .ok () ∧
      outcome.state.live = some ⟨asked.state.stage, live.surface⟩ ∧
      effects outcome.notes = [.window (.event event), .window (.acquireFrame (some failure)),
        .window (.configure live.surface), .window .requestRedraw]
  /-- Where the sheet does not know the place of a sprite, the redraw stops before anything is
  written. -/
  unlisted : asked.result = .ok true → app.frames.head?.join = none →
    ∀ a, asked.state.stage.canvas.active = some a →
      ∀ fault, asked.state.stage.canvas.layout a.config = .error fault →
        outcome.result = .error fault ∧
          effects outcome.notes = [.window (.event event), .window (.acquireFrame none)]
  /-- Otherwise one pass is shown, which draws six vertices for each tile and each slot that shows a
  sprite, all at once. -/
  shown : asked.result = .ok true → app.frames.head?.join = none →
    ∀ a, asked.state.stage.canvas.active = some a →
      ∀ vertices, asked.state.stage.canvas.layout a.config = .ok vertices →
        ∀ viewport, live.surface.fitted a.config = .ok viewport →
          ∃ tiles sprites arena, asked.state.stage.canvas.occupied = .ok tiles ∧
            asked.state.stage.canvas.activeSprites = .ok sprites ∧
            vertices.length = 6 * (tiles + sprites) ∧
            outcome.result = .ok () ∧
            outcome.state.live = some ⟨⟨{ asked.state.stage.canvas with arena := arena },
              asked.state.stage.device⟩, live.surface⟩ ∧
            effects outcome.notes = .window (.event event) :: .window (.acquireFrame none) ::
              (a.resources.writes vertices ++
                (GpuDevice.passCommands options.clear viewport
                  (a.resources.draws (6 * (tiles + sprites))) ++
                    [.window .present, .window .requestRedraw]))
  /-- A sheet that knows the places of its sprites lets every canvas be listed. -/
  listed : (∀ id, asked.state.stage.canvas.sheet.Contains id →
      ∃ uv, asked.state.stage.canvas.sheet.uv id = .ok uv) →
    ∀ a, asked.state.stage.canvas.active = some a →
      ∃ vertices, asked.state.stage.canvas.layout a.config = .ok vertices

section Redrawn

variable {scene : Scene α} {past : List Beat} {app : App (Observed α)} {live : Live}

/-- A redraw of an open window comes to what `Redrawn` says. -/
theorem Agrees.redrawn (hscene : scene.Modest) (h : Agrees past app) (hlive : app.live = some live)
    (options : WindowOptions) (platform : Platform) (time : Nat) :
    Redrawn options app live (.redraw time) (History.passed past time)
      ((scene.frame (History.passed past time)).run ⟨app.scene.state, live.stage⟩)
      ((deliver scene.observed options platform (.redraw time)).run app) := by
  let now : App (Observed α) := { app with clock := app.clock + time }
  have hnow : now.live = some live := hlive
  have hstage := h.equipped live hlive
  obtain ⟨stage, frames, ending, hstate, -⟩ :=
    redraw_of_open hscene.observed options hnow hstage
  have hedits := hscene.frame (History.passed past time) ⟨app.scene.state, live.stage⟩
  have hframe : ((scene.observed.frame now.elapsed).run ⟨now.scene, live.stage⟩) =
      let asked := (scene.frame (History.passed past time)).run ⟨app.scene.state, live.stage⟩
      ⟨asked.result, ⟨⟨asked.state.scene, .frame (History.passed past time) :: app.scene.calls⟩,
        asked.state.stage⟩, asked.notes⟩ := by
    rw [h.elapsed_eq time]
    rfl
  have houtcome : (deliver scene.observed options platform (.redraw time)).run app =
      let outcome := (redraw scene.observed options).run now
      ⟨outcome.result, outcome.state, .window (.event (.redraw time)) :: outcome.notes⟩ := rfl
  generalize (scene.frame (History.passed past time)).run ⟨app.scene.state, live.stage⟩ = asked at *
  rw [hframe] at hstate
  rcases asked with ⟨result, shown, notes⟩
  have hshown : shown.stage.Equipped := hstage.edits hedits
  have hsilent := hedits.silent
  dsimp only at hframe hsilent
  rw [houtcome]
  refine {
    scene := ?scene
    equipped := hshown
    stopped := ?stopped
    quit := ?quit
    unavailable := ?unavailable
    unlisted := ?unlisted
    shown := ?shown
    listed := fun huv a ha => Canvas.exists_layout ha hshown.sound huv }
  case scene =>
    dsimp only
    rw [hstate]
    rfl
  case stopped =>
    rintro fault ⟨⟩
    rw [run_redraw_of_fault hnow hframe]
    refine ⟨rfl, ?_⟩
    rw [effects_window, hsilent]
  case quit =>
    rintro ⟨⟩
    rw [run_redraw_of_asked hnow hframe]
    refine ⟨rfl, rfl, rfl, ?_⟩
    rw [effects_window, effects_append, hsilent]
    rfl
  case unavailable =>
    rintro ⟨⟩ failure hfailure
    rw [run_redraw_of_failure options hnow hframe hshown.pending hfailure]
    refine ⟨rfl, rfl, ?_⟩
    rw [effects_window, effects_append, hsilent]
    rfl
  case unlisted =>
    rintro ⟨⟩ hnext a ha fault hlayout
    obtain ⟨arena, hpresent⟩ := hshown.run_present_of_fault ha hlayout options live.surface
    rw [run_redraw_of_presented hnow hframe hnext hpresent]
    refine ⟨rfl, ?_⟩
    rw [effects_window, effects_append, hsilent]
    rfl
  case shown =>
    rintro ⟨⟩ hnext a ha vertices hlayout viewport hfitted
    obtain ⟨arena, more, hpresent, hmore⟩ := hshown.run_present ha hlayout hfitted options
    have hlength := Canvas.length_of_layout hlayout
    rw [Canvas.pictures, List.length_append] at hlength
    rw [run_redraw_of_presented hnow hframe hnext hpresent]
    refine ⟨_, _, arena, Canvas.occupied_eq ha (hshown.sound.fits a ha) hshown.sound.size_tiles,
      Canvas.activeSprites_eq ha (hshown.sound.slots_le_size ha), hlength, rfl, rfl, ?_⟩
    rw [← hlength, effects_window, effects_append, hsilent, List.nil_append, effects_window,
      effects_append, hmore, List.append_assoc, List.append_assoc]
    rfl

end Redrawn

/-- Over any events that are answered, each on a platform of its own, and with any outcomes of the
requests for a frame: the scene was asked to start once whenever the window was opened, and before
any picture of that window, and for one picture at each redraw of an open window, with the time
since the redraw of an open window before and none at the first. Every event comes to the same
without the list of what was asked. A redraw of a window that is not open does no more than time
passing, and one of an open window ends as `Redrawn` says. -/
theorem frame_loop {scene : Scene α} (hscene : scene.Modest) (options : WindowOptions)
    (platform : Platform) (state : α) (past : List Beat) (app : App (Observed α))
    (h : Reached scene.observed options (fresh platform ⟨state, []⟩) past app) :
    app.scene.calls = History.calls past ∧
      (∀ live, app.live = some live → ∃ later earlier, ∃ times : List Nat,
        past = later ++ ⟨.resumed, false, true⟩ :: earlier ∧
          (∀ beat ∈ later, beat.before ∧ beat.after) ∧
          app.scene.calls = times.map .frame ++ .start :: History.calls earlier) ∧
      ∀ now : Platform,
        (∀ event,
          let outcome := (deliver scene.observed options now event).run app
          (deliver scene options now event).run app.plain =
            ⟨outcome.result, outcome.state.plain, outcome.notes⟩) ∧
        ∀ time,
          let outcome := (deliver scene.observed options now (.redraw time)).run app
          (app.live = none → outcome =
            ⟨.ok (), { app with clock := app.clock + time }, [.window (.event (.redraw time))]⟩) ∧
          ∀ live, app.live = some live →
            Redrawn options app live (.redraw time) (History.passed past time)
              ((scene.frame (History.passed past time)).run ⟨app.scene.state, live.stage⟩)
              outcome := by
  have hagrees := h.agrees hscene
  refine ⟨hagrees.calls, fun live hlive => ?_, fun now => ⟨fun event => ?_, fun time => ⟨?_, ?_⟩⟩⟩
  · obtain ⟨later, earlier, rfl, hlater⟩ := hagrees.opening live hlive
    obtain ⟨times, htimes⟩ := History.calls_append_of_open (fun beat hbeat => (hlater beat hbeat).1)
      (⟨.resumed, false, true⟩ :: earlier)
    exact ⟨later, earlier, times, rfl, hlater, hagrees.calls.trans htimes⟩
  · exact shadows_deliver event app
  · intro hclosed
    let later : App (Observed α) := { app with clock := app.clock + time }
    have hlater : later.live = none := hclosed
    have hredraw : (redraw scene.observed options).run later = ⟨.ok (), later, []⟩ :=
      run_redraw_of_closed hlater
    exact congrArg (fun outcome => Outcome.mk outcome.result outcome.state
      (.window (.event (.redraw time)) :: outcome.notes)) hredraw
  · intro live hlive
    exact hagrees.redrawn hscene hlive options now time

/-- A scene of one tile and one sprite, which asks to quit after twenty nanoseconds. -/
def briefScene : Scene Nat where
  config _ := ⟨3, 2, 8, 8, 1⟩
  sheet := return .ok Stage.straySheet
  start := do
    let _ ← Shown.onStage (Stage.Command.setTile (some ⟨0⟩) 1 1).run
  frame elapsed := do
    let _ ← Shown.onStage (Stage.Command.setSprite 0 (some ⟨0⟩) ⟨4, 2, 9, 9⟩).run
    Shown.onScene (do
      Action.modify fun time => time + elapsed
      let time ← Action.get
      return time < 20)

theorem modest_briefScene : briefScene.Modest where
  start := Action.traces_bind (Shown.edits_command id) fun _ => Action.traces_pure _
  frame elapsed := by
    refine Action.traces_bind (Shown.edits_command id) fun _ => Shown.edits_onScene ?_
    exact Action.traces_bind (Action.traces_modify fun _ => rfl) fun _ =>
      Action.traces_bind Action.traces_get fun _ => Action.traces_pure _

/-- What comes of an event on an ordinary platform. -/
def briefly (event : WindowEvent) (app : App (Observed Nat)) : Outcome (App (Observed Nat)) Unit :=
  (deliver briefScene.observed .standard .ordinary event).run app

theorem reached_briefly {start app : App (Observed Nat)} {past : List Beat}
    (h : Reached briefScene.observed .standard start past app) {event : WindowEvent}
    (hok : (briefly event app).result = .ok ()) {before after : Bool}
    (hbefore : app.live.isSome = before)
    (hafter : (briefly event app).state.live.isSome = after) :
    Reached briefScene.observed .standard start (⟨event, before, after⟩ :: past)
      (briefly event app).state := by
  subst hbefore hafter
  exact h.next .ordinary event hok

theorem frame_loop_briefScene :
    let app := (briefly (.redraw 16) (briefly .resumed (fresh .ordinary ⟨0, []⟩)).state).state
    app.scene.calls = [.frame 0, .start] ∧
      (briefly (.redraw 7) app).state.scene.calls = [.frame 7, .frame 0, .start] ∧
      ∃ vertices, vertices.length = 12 ∧ effects (briefly (.redraw 7) app).notes =
        .window (.event (.redraw 7)) :: .window (.acquireFrame none) ::
          (ResourceSet.writes ⟨⟨1⟩, ⟨2⟩, ⟨3⟩, ⟨4⟩⟩ vertices ++
            (GpuDevice.passCommands .black ⟨0, 0, 24, 16⟩ [⟨⟨3⟩, ⟨4⟩, ⟨1⟩, 12⟩] ++
              [.window .present, .window .requestRedraw])) := by
  intro app
  have hopened : (briefly .resumed (fresh .ordinary ⟨0, []⟩)).result = .ok () := by decide +kernel
  have hdrawn : (briefly (.redraw 16) (briefly .resumed (fresh .ordinary ⟨0, []⟩)).state).result =
      .ok () := by decide +kernel
  have hopen : (briefly .resumed (fresh .ordinary ⟨0, []⟩)).state.live.isSome = true := by
    decide +kernel
  have hlive : app.live.isSome = true := by decide +kernel
  have hnext : app.frames.head?.join = none := by decide +kernel
  have hasked : ∀ live ∈ app.live,
      ((briefScene.frame 7).run ⟨app.scene.state, live.stage⟩).result = .ok true ∧
        ((briefScene.frame 7).run ⟨app.scene.state, live.stage⟩).state.stage.canvas.active =
          some ⟨⟨3, 2, 8, 8, 1⟩, ⟨1⟩, ⟨2⟩, ⟨3⟩, ⟨4⟩⟩ ∧
        ((briefScene.frame 7).run ⟨app.scene.state, live.stage⟩).state.stage.canvas.occupied =
          .ok 1 ∧
        ((briefScene.frame 7).run
          ⟨app.scene.state, live.stage⟩).state.stage.canvas.activeSprites = .ok 1 ∧
        live.surface.fitted ⟨3, 2, 8, 8, 1⟩ = .ok ⟨0, 0, 24, 16⟩ := by decide +kernel
  have hlisted : ∀ live ∈ app.live, (((briefScene.frame 7).run
      ⟨app.scene.state, live.stage⟩).state.stage.canvas.layout ⟨3, 2, 8, 8, 1⟩).isOk := by
    decide +kernel
  have hreached : Reached briefScene.observed .standard (fresh .ordinary ⟨0, []⟩)
      [⟨.redraw 16, true, true⟩, ⟨.resumed, false, true⟩] app :=
    reached_briefly (reached_briefly .start hopened rfl hopen) hdrawn hopen hlive
  clear_value app
  obtain ⟨hcalls, -, hevery⟩ := frame_loop modest_briefScene .standard .ordinary 0 _ _ hreached
  obtain ⟨live, hsome⟩ := Option.isSome_iff_exists.1 hlive
  have hredrawn := ((hevery .ordinary).2 7).2 live hsome
  obtain ⟨hresult, hactive, htiles, hsprites, hfitted⟩ := hasked live hsome
  have hok := hlisted live hsome
  change Redrawn _ _ _ _ 7 ((briefScene.frame 7).run ⟨app.scene.state, live.stage⟩)
    (briefly (.redraw 7) app) at hredrawn
  generalize (briefScene.frame 7).run ⟨app.scene.state, live.stage⟩ = asked at *
  generalize briefly (.redraw 7) app = outcome at *
  cases hlayout : asked.state.stage.canvas.layout ⟨3, 2, 8, 8, 1⟩ with
  | error fault => simp [hlayout, Except.isOk, Except.toBool] at hok
  | ok vertices =>
  obtain ⟨tiles, sprites, -, htiles', hsprites', hlength, -, -, hnotes⟩ :=
    hredrawn.shown hresult hnext _ hactive vertices hlayout _ hfitted
  rw [htiles] at htiles'
  rw [hsprites] at hsprites'
  cases htiles'
  cases hsprites'
  refine ⟨hcalls, ?_, vertices, hlength, hnotes⟩
  rw [hredrawn.scene, hcalls]
  rfl

end App

end Mosaic
