import Mosaic.Proofs.Window.Frame

/-!
# Opening the window

An attempt to open the window, if it answers, comes to one of two (`App.Opens`): the window is open,
its stage is equipped and the scene was asked once to start, or an error is answered, the window is
not open and the scene was asked nothing but its sheet. A program that is resumed opens its window
unless it is open (`App.Resumes`).
-/

namespace Mosaic

namespace Scene

variable {α : Type} {scene : Scene α}

theorem edits_observe {β : Type} {call : SceneCall} {action : Action (Shown α) β}
    (h : Action.Traces Shown.Edits action) : Action.Traces Shown.Edits (observe call action) :=
  fun shown => ⟨(h shown.plain).stage, (h shown.plain).silent⟩

theorem Modest.observed (h : scene.Modest) : scene.observed.Modest where
  start := edits_observe h.start
  frame elapsed := edits_observe (h.frame elapsed)

end Scene

namespace App

variable {α : Type}

/-- What comes of an attempt to open the window. -/
inductive Opens (app : App (Observed α)) : Except RunError Unit → App (Observed α) → Prop where
  | opened (state : α) (live : Live) (h : live.stage.Equipped) :
      Opens app (.ok ())
        { app with scene := ⟨state, .start :: app.scene.calls⟩, live := some live }
  | refused (e : RunError) (state : α) :
      Opens app (.error e) { app with scene := ⟨state, app.scene.calls⟩ }

/-- What comes of setting a stage up that never was, and of filling it. -/
def Stages (before : Shown (Observed α)) (answer : Except RunError Unit)
    (after : Shown (Observed α)) : Prop :=
  ∀ sheet, before.stage = .fresh sheet GpuDevice.fresh →
    match answer with
    | .ok () => after.scene.calls = .start :: before.scene.calls ∧ after.stage.Equipped
    | .error _ => after.scene.calls = before.scene.calls

variable {scene : Scene α}

theorem answers_openStage (hscene : scene.Modest) (config : Config) :
    Action.Answers Stages (openStage scene.observed config) := by
  refine Action.answers_orClean ?_ fun s e t h => h
  have hsetup : Action.Answers
      (fun (s : Shown (Observed α)) (made : Except SetupError Unit) t => t.scene = s.scene ∧
        ∀ sheet, s.stage = .fresh sheet GpuDevice.fresh → made = .ok () → t.stage.Equipped)
      (Shown.onStage (Stage.setup config)) := by
    intro s made hmade
    refine ⟨rfl, fun sheet hsheet hok => ?_⟩
    rw [Shown.onStage, Action.run_part, hsheet] at hmade ⊢
    exact Stage.equipped_of_setup (hmade.trans (congrArg _ hok))
  have hstart : Action.Answers
      (fun (s : Shown (Observed α)) _ t => t.scene.calls = .start :: s.scene.calls ∧
        (s.stage.Equipped → t.stage.Equipped)) scene.observed.start := fun s _ _ =>
    ⟨rfl, fun h => h.edits (hscene.observed.start s)⟩
  refine Action.answers_bind hsetup fun made => ?_
  cases made with
  | error e => exact Action.answers_pure fun t s hs sheet hsheet => congrArg _ hs.1
  | ok u =>
      refine Action.answers_bind hstart fun _ => Action.answers_pure fun t s hs r hr sheet hsheet => ?_
      rw [← hr.1]
      exact ⟨hs.1, hs.2 (hr.2 sheet hsheet rfl)⟩

theorem answers_lend {β γ : Type} {P : Shown β → γ → Shown β → Prop} {action : Action (Shown β) γ}
    (h : Action.Answers P action) (stage : Stage GpuDevice) :
    Action.Answers (fun (app : App β) made app' => ∃ shown, P ⟨app.scene, stage⟩ made.1 shown ∧
      made.2 = shown.stage ∧ app' = { app with scene := shown.scene }) (lend stage action) := by
  intro app made hmade
  have hP := h ⟨app.scene, stage⟩
  rcases hrun : action.run ⟨app.scene, stage⟩ with ⟨fault | b, shown, notes⟩
  · rw [run_lend hrun] at hmade
    cases hmade
  · rw [run_lend hrun] at hmade ⊢
    rw [hrun] at hP
    cases hmade
    exact ⟨shown, hP b rfl, rfl, rfl⟩

theorem answers_refused (e : RunError) : Action.Answers Opens
    (pure (.error e) : Action (App (Observed α)) (Except RunError Unit)) :=
  Action.answers_pure fun app => .refused e app.scene.state

theorem answers_openSurface (hscene : scene.Modest) (options : WindowOptions) (platform : Platform)
    (config : Config) (scale width height : Nat) :
    Action.Answers Opens
      (openSurface scene.observed options platform config scale width height) := by
  refine Action.answers_note_bind ?_
  cases platform.adapterFailure with
  | some reason => exact answers_refused _
  | none =>
  refine Action.answers_note_bind ?_
  cases platform.deviceFailure with
  | some reason => exact answers_refused _
  | none =>
  dsimp only
  cases platform.format with
  | none => exact answers_refused _
  | some format =>
  dsimp only
  cases platform.innerSize.getD (width, height) with
  | mk innerWidth innerHeight =>
  refine Action.answers_note_bind ?_
  have hsheet : Action.Answers
      (fun (app : App (Observed α)) _ app' =>
        ∃ state, app' = { app with scene := ⟨state, app.scene.calls⟩ })
      (Action.part App.scene (fun state app => { app with scene := state })
        scene.observed.sheet) := fun app _ _ => ⟨_, rfl⟩
  refine Action.answers_bind hsheet fun made => ?_
  cases made with
  | error e =>
      refine Action.answers_pure ?_
      rintro _ app ⟨state, rfl⟩
      exact .refused _ state
  | ok sheet =>
  refine Action.answers_bind (answers_lend (answers_openStage hscene config) _) fun opened => ?_
  rcases opened with ⟨e | ⟨⟩, stage⟩
  · refine Action.answers_pure ?_
    rintro _ _ ⟨⟨⟨state, calls⟩, stage⟩, hstages, rfl, rfl⟩ app ⟨_, rfl⟩
    obtain rfl : calls = app.scene.calls := hstages sheet rfl
    exact .refused e state
  · refine Action.answers_note_bind (Action.answers_modify_bind (Action.answers_pure ?_))
    rintro _ _ rfl _ ⟨⟨⟨state, calls⟩, stage⟩, hstages, rfl, rfl⟩ app ⟨_, rfl⟩
    obtain ⟨rfl, hstage⟩ : calls = .start :: app.scene.calls ∧ stage.Equipped := hstages sheet rfl
    exact .opened state _ hstage

/-- An attempt to open the window opens it or leaves it alone. -/
theorem answers_openWindow (hscene : scene.Modest) (options : WindowOptions)
    (platform : Platform) : Action.Answers Opens (openWindow scene.observed options platform) := by
  refine Action.answers_get_bind fun app => ?_
  dsimp only
  cases (scene.observed.config app.scene).validate with
  | error e => exact answers_refused _
  | ok u =>
  refine Action.answers_ofExcept_bind fun size => Action.answers_note_bind ?_
  cases platform.windowFailure with
  | some reason => exact answers_refused _
  | none =>
  refine Action.answers_orClean (Action.answers_note_bind ?_) fun _ _ _ h => h
  cases platform.surfaceFailure with
  | some reason => exact answers_refused _
  | none =>
  exact Action.answers_orClean (answers_openSurface hscene options platform _ _ _ _)
    fun _ _ _ h => h

/-- What comes of resuming a program whose window is not open. -/
inductive Resumes (app : App (Observed α)) : App (Observed α) → Prop where
  | opened (state : α) (live : Live) (h : live.stage.Equipped) :
      Resumes app { app with scene := ⟨state, .start :: app.scene.calls⟩, live := some live }
  | refused (e : RunError) (state : α) :
      Resumes app
        { app with scene := ⟨state, app.scene.calls⟩, error := some e, ending := true }

theorem answers_resume (hscene : scene.Modest) (options : WindowOptions) (platform : Platform) :
    Action.Answers (fun app _ app' => (app.live.isSome → app' = app) ∧
      (app.live = none → Resumes app app')) (resume scene.observed options platform) := by
  have hopen : Action.Answers (fun app _ app' => Resumes app app') (do
      match ← openWindow scene.observed options platform with
      | .ok () => Action.ask .requestRedraw
      | .error e =>
        let reason ← Action.ofExcept e.message
        Action.log .error s!"failed to initialize renderer: {reason}"
        Action.modify fun app => { app with error := some e }
        exit : Action (App (Observed α)) Unit) := by
    refine Action.answers_bind (answers_openWindow hscene options platform) fun answer => ?_
    cases answer with
    | ok u =>
        refine Action.answers_note ?_
        rintro app' app (⟨state, live, h⟩ | _)
        exact .opened state live h
    | error e =>
        refine Action.answers_ofExcept_bind fun reason => Action.answers_note_bind
          (Action.answers_modify_bind (Action.answers_modify_bind (Action.answers_note ?_)))
        rintro _ _ rfl _ rfl app (_ | ⟨_, state⟩)
        exact .refused e state
  intro app a ha
  rw [resume, Action.run_get_bind] at ha ⊢
  cases hlive : app.live with
  | some live => exact ⟨fun _ => rfl, nofun⟩
  | none =>
      rw [hlive] at ha
      exact ⟨nofun, fun _ => hopen app a ha⟩

end App

end Mosaic
