import Mosaic.Proofs.Window.Passes

/-!
# Attempts to open the window

`Scene.refusal` is why a window cannot be opened: the first of eight stages that fails. An attempt
answers just that error, if there is one, and leaves nothing behind but what the scene did to make
its sheet; without one, it opens the window, unless the scene stops (`App.attempted_openWindow`).
-/

namespace Mosaic

/-! ### Why the window cannot be opened -/

/-- The error of a device that cannot hold an image. -/
def Image.tooLarge (image : Image) : DeviceError :=
  let width := image.width
  let height := image.height
  let side := GpuLimits.standard.textureSide
  .other s!"sheet of {width}x{height} exceeds texture limit {side}"

namespace Scene

variable {α : Type}

/-- Why the sheet cannot be shown: it is not made, or its image is larger than a processor
allows. -/
def sheetRefusal (scene : Scene α) (state : α) : Option SetupError :=
  match (scene.sheet.run state).result with
  | .error _ => none
  | .ok (.error e) => some e
  | .ok (.ok sheet) =>
    if sheet.image.width ≤ GpuLimits.standard.textureSide ∧
        sheet.image.height ≤ GpuLimits.standard.textureSide then none
    else some (.device sheet.image.tooLarge)

/-- Why the window cannot be opened, if it cannot: the canvas, the window, the surface, the adapter,
the device, the format and the sheet are tried in this order. -/
def refusal (scene : Scene α) (platform : Platform) (state : α) : Option RunError :=
  match (scene.config state).validate with
  | .error e => some (.setup e)
  | .ok () =>
    [platform.windowFailure.map .window,
      platform.surfaceFailure.map fun reason => .device (.other reason),
      platform.adapterFailure.map fun reason =>
        .device (.other ("no suitable GPU adapter found: " ++ reason)),
      platform.deviceFailure.map fun reason => .device (.other reason),
      if platform.format.isNone then some (.device .notReady) else none,
      (scene.sheetRefusal state).map .setup].findSome? id

end Scene

namespace Platform

/-- The inner size that is asked for when a window is opened. -/
def requested (platform : Platform) (options : WindowOptions) (config : Config) : Nat × Nat :=
  (Bounded.clamp .bits32
      (Bounded.wrap (config.columns * config.tileWidth) * platform.scale options),
    Bounded.clamp .bits32
      (Bounded.wrap (config.rows * config.tileHeight) * platform.scale options))

/-- The inner size of a window that was opened. -/
def inner (platform : Platform) (options : WindowOptions) (config : Config) : Nat × Nat :=
  platform.innerSize.getD (platform.requested options config)

theorem windowSize_of_valid {config : Config} (h : config.Valid) (platform : Platform)
    (options : WindowOptions) :
    windowSize config (platform.scale options) = .ok (platform.requested options config) := by
  rw [windowSize, Config.width_of_valid h, Config.height_of_valid h]
  rfl

end Platform

/-! ### Setting a new stage up -/

namespace Stage

variable {sheet : Sheet} {config : Config}

theorem result_setup_of_fits (hconfig : config.validate = .ok ())
    (hfits : sheet.image.Fits .standard) :
    ((setup config).run (fresh sheet GpuDevice.fresh)).result = .ok (.ok ()) := by
  obtain ⟨hresult, -⟩ := setup_of_linked (GpuDevice.simulates_twin hfits) config
    (s := fresh sheet GpuDevice.fresh) (t := fresh sheet Recorder.fresh)
    ⟨rfl, GpuDevice.twin_fresh _⟩ rfl
  obtain ⟨line, hrun⟩ := run_setup_of_room (s := fresh sheet Recorder.fresh) rfl hconfig rfl
    (show 0 + 4 < Bounded.Width.bits32.count by decide)
  rw [hresult, hrun]

end Stage

namespace GpuDevice

theorem run_createTexture_of_large {device : GpuDevice} (hlimits : device.limits = .standard)
    {image : Image} (h : ¬ image.Fits .standard) :
    (createTexture image).run device = ⟨.ok (.error image.tooLarge), device, []⟩ := by
  rw [Image.Fits, not_and_or, Nat.not_le, Nat.not_le, ← hlimits] at h
  rw [createTexture, Action.run_get_bind]
  dsimp only
  rw [if_pos h, Image.tooLarge, ← hlimits]
  rfl

/-- On a new device all that a canvas asks for can be made but a texture that is too large. -/
theorem result_acquire_of_large {image : Image} (h : ¬ image.Fits .standard) :
    ((ResourceSet.acquire Stage.meshLayout image).run fresh).result =
      .ok (.error image.tooLarge) := by
  let device := ((fresh.gain (.mesh Stage.meshBytes)).gain .program).gain (.drawState ⟨1⟩)
  have hmesh : ∃ notes, (Device.createMesh Stage.meshLayout).run fresh =
      ⟨.ok (.ok ⟨1⟩), fresh.gain (.mesh Stage.meshBytes), notes⟩ := ⟨_, rfl⟩
  have hprogram : ∃ notes, Device.createProgram.run (fresh.gain (.mesh Stage.meshBytes)) =
      ⟨.ok (.ok ⟨2⟩), (fresh.gain (.mesh Stage.meshBytes)).gain .program, notes⟩ := ⟨_, rfl⟩
  have hdrawState : ∃ notes,
      (Device.createDrawState ⟨1⟩ ⟨2⟩).run ((fresh.gain (.mesh Stage.meshBytes)).gain .program) =
        ⟨.ok (.ok ⟨3⟩), device, notes⟩ := ⟨_, rfl⟩
  have htexture : (Device.createTexture image).run device = _ :=
    run_createTexture_of_large rfl h
  obtain ⟨first, hmesh⟩ := hmesh
  obtain ⟨second, hprogram⟩ := hprogram
  obtain ⟨third, hdrawState⟩ := hdrawState
  rw [ResourceSet.acquire, Action.run_bind_of_ok hmesh]
  dsimp only
  rw [Action.run_bind_of_ok hprogram]
  dsimp only
  rw [Action.run_bind_of_ok hdrawState]
  dsimp only
  rw [Action.run_bind_of_ok htexture]
  rfl

end GpuDevice

namespace Stage

variable {sheet : Sheet} {config : Config}

theorem result_setup_of_large (hconfig : config.validate = .ok ())
    (hlarge : ¬ sheet.image.Fits .standard) :
    ((setup config).run (fresh sheet GpuDevice.fresh)).result =
      .ok (.error (.device sheet.image.tooLarge)) := by
  have hacquire := GpuDevice.result_acquire_of_large hlarge
  rcases hrun : (ResourceSet.acquire meshLayout sheet.image).run
    (fresh sheet GpuDevice.fresh).device with ⟨result, device, notes⟩
  obtain rfl : result = .ok (.error sheet.image.tooLarge) :=
    (congrArg Outcome.result hrun).symm.trans hacquire
  have hdevice : (onDevice (ResourceSet.acquire meshLayout sheet.image)).run
      (fresh sheet GpuDevice.fresh) =
        ⟨.ok (.error sheet.image.tooLarge), ⟨.fresh sheet, device⟩, notes⟩ := by
    rw [onDevice, Action.run_part, hrun]
    rfl
  rw [setup, Action.run_get_bind, hconfig]
  exact congrArg Outcome.result (Action.run_bind_of_ok hdevice _)

end Stage

/-! ### What an attempt comes to -/

namespace App

variable {α : Type}

section Stage

variable (scene : Scene α) {config : Config} (state : α) {sheet : Sheet}

/-- A stage whose sheet is too large is let go of before the scene is asked to start. -/
theorem run_openStage_of_large (hconfig : config.validate = .ok ())
    (hlarge : ¬ sheet.image.Fits .standard) :
    ∃ stage notes, (openStage scene config).run ⟨state, .fresh sheet GpuDevice.fresh⟩ =
      ⟨.ok (.error (.setup (.device sheet.image.tooLarge))), ⟨state, stage⟩, notes⟩ := by
  have hresult := Stage.result_setup_of_large hconfig hlarge
  obtain ⟨hcanvas, -⟩ := Stage.setup_of_error hresult
  rcases hsetup : (Stage.setup config).run (.fresh sheet GpuDevice.fresh) with
    ⟨result, stage, notes⟩
  rw [hsetup] at hresult hcanvas
  cases hresult
  have hshown : (Shown.onStage (Stage.setup config)).run
      (⟨state, .fresh sheet GpuDevice.fresh⟩ : Shown α) =
        ⟨.ok (.error (.device sheet.image.tooLarge)), ⟨state, stage⟩, notes⟩ := by
    rw [Shown.onStage, Action.run_part, hsetup]
  have hdrop : (Shown.onStage Stage.drop).run (⟨state, stage⟩ : Shown α) =
      ⟨.ok (), ⟨state, stage⟩, []⟩ := by
    have hactive : stage.canvas.active = none := congrArg Canvas.active hcanvas
    rw [Shown.onStage, Action.run_part, Stage.drop, Action.run_get_bind, Canvas.isValid, hactive]
    rfl
  exact ⟨stage, _, Action.run_orClean_of_error (Action.run_bind_of_ok hshown _) hdrop⟩

/-- A stage whose sheet fits is not refused, though the scene may stop. -/
theorem answers_openStage_of_fits (hconfig : config.validate = .ok ()) :
    Action.Answers (fun (shown : Shown α) answer _ => ∀ sheet,
      shown.stage = .fresh sheet GpuDevice.fresh → sheet.image.Fits .standard → answer = .ok ())
      (openStage scene config) := by
  have hsetup : Action.Answers (fun (shown : Shown α) made _ => ∀ sheet,
      shown.stage = .fresh sheet GpuDevice.fresh → sheet.image.Fits .standard → made = .ok ())
      (Shown.onStage (Stage.setup config)) := by
    intro shown made hmade sheet hsheet hfits
    rw [Shown.onStage, Action.run_part, hsheet] at hmade
    exact Except.ok.inj (hmade.symm.trans (Stage.result_setup_of_fits hconfig hfits))
  have hstart : Action.Answers (fun _ _ _ => True) scene.start := fun _ _ _ => trivial
  refine Action.answers_orClean (Action.answers_bind hsetup fun made => ?_) fun _ _ _ h => h
  cases made with
  | error e =>
      refine Action.answers_pure fun t shown hmade sheet hsheet hfits => ?_
      cases hmade sheet hsheet hfits
  | ok u => exact Action.answers_bind hstart fun _ => Action.answers_pure fun _ _ _ _ _ _ _ _ => rfl

end Stage

/-- What comes of an attempt to open a window of the given inner size. Where there is a reason not
to, it is answered, and the scene did no more than to make its sheet. -/
inductive Attempted (scene : Scene α) (inner : Nat × Nat) (app : App α) (P : List Note → Prop) :
    Option RunError → Outcome (App α) (Except RunError Unit) → Prop
  | refused (e : RunError) (state : α)
      (hstate : state = app.scene ∨ state = (scene.sheet.run app.scene).state) (notes : List Note)
      (h : P notes) :
      Attempted scene inner app P (some e) ⟨.ok (.error e), { app with scene := state }, notes⟩
  | opened (state : α) (live : Live) (hwidth : live.surface.width = max 1 inner.1)
      (hheight : live.surface.height = max 1 inner.2) (notes : List Note)
      (h : ∀ before, surfaceAfter before notes = some live.surface) :
      Attempted scene inner app P none
        ⟨.ok (.ok ()), { app with scene := state, live := some live }, notes⟩
  /-- The scene stopped. -/
  | stopped (fault : Fault) (app' : App α) (notes : List Note) :
      Attempted scene inner app P none ⟨.error fault, app', notes⟩

section Attempted

variable {scene : Scene α} {inner : Nat × Nat} {app : App α} {P Q : List Note → Prop}
  {refusal : Option RunError}

/-- Before an attempt a request may be made. -/
theorem Attempted.ask {next : Unit → Action (App α) (Except RunError Unit)}
    (h : Attempted scene inner app P refusal ((next ()).run app)) (request : WindowRequest)
    (hP : ∀ notes, P notes → Q (.window request :: notes)) :
    Attempted scene inner app Q refusal ((Action.ask request >>= next).run app) := by
  change Attempted scene inner app Q refusal ⟨((next ()).run app).result,
    ((next ()).run app).state, .window request :: ((next ()).run app).notes⟩
  generalize (next ()).run app = outcome at h ⊢
  cases h with
  | refused e state hstate notes h => exact .refused e state hstate _ (hP notes h)
  | opened state live hwidth hheight notes h =>
      exact .opened state live hwidth hheight _ fun before => h _
  | stopped fault app' notes => exact .stopped fault app' _

/-- After an attempt that failed a request may be made. -/
theorem Attempted.orClean {action : Action (App α) (Except RunError Unit)}
    (h : Attempted scene inner app P refusal (action.run app)) (request : WindowRequest)
    (hP : ∀ notes, P notes → Q (notes ++ [.window request])) :
    Attempted scene inner app Q refusal ((action.orClean (Action.ask request)).run app) := by
  rcases hrun : action.run app with ⟨result, app', notes⟩
  rw [hrun] at h
  cases h with
  | refused e state hstate notes h =>
      rw [Action.run_orClean_of_error hrun rfl]
      exact .refused e state hstate _ (hP notes h)
  | opened state live hwidth hheight notes h =>
      rw [Action.run_orClean_of_ok hrun]
      exact .opened state live hwidth hheight notes h
  | stopped fault app' notes =>
      rw [Action.run_orClean_of_fault hrun]
      exact .stopped fault _ _

/-- A reason not to open the window that is known beforehand is answered at once. -/
theorem attempted_refused (e : RunError) (h : P []) :
    Attempted scene inner app P (some e) ((pure (.error e) : Action (App α) _).run app) :=
  .refused e app.scene (.inl rfl) [] h

end Attempted

section Open

variable {scene : Scene α} {options : WindowOptions} {platform : Platform} {config : Config}
  {app : App α}

theorem admits_not_isRequest : GpuDevice.Admits fun n => n.isRequest = false :=
  ⟨fun _ _ => rfl, fun _ _ _ _ => rfl, fun _ _ => rfl⟩

/-- What opening a surface does once the surface is set up. -/
def openSheet (scene : Scene α) (config : Config) (surface : SurfaceConfig) (line : String) :
    Action (App α) (Except RunError Unit) := do
  let made ← Action.part App.scene (fun state app => { app with scene := state }) scene.sheet
  match made with
  | .error e => return .error (.setup e)
  | .ok sheet =>
    match ← lend (.fresh sheet GpuDevice.fresh) (openStage scene config) with
    | (.error e, _) => return .error e
    | (.ok (), stage) =>
      Action.log .debug line
      Action.modify fun app => { app with live := some ⟨stage, surface⟩ }
      return .ok ()

/-- Once the surface is set up, its stage is opened unless the sheet cannot be shown. -/
theorem attempted_openSheet (hscene : scene.Enclosed) (hconfig : config.validate = .ok ())
    (inner : Nat × Nat) (surface : SurfaceConfig) (hwidth : surface.width = max 1 inner.1)
    (hheight : surface.height = max 1 inner.2) (line : String) :
    Attempted scene inner app (fun _ => True) ((scene.sheetRefusal app.scene).map .setup)
      ((do Action.ask (.configure surface); openSheet scene config surface line).run app) := by
  change Attempted scene inner app _ _ ⟨((openSheet scene config surface line).run app).result,
    ((openSheet scene config surface line).run app).state,
    .window (.configure surface) :: ((openSheet scene config surface line).run app).notes⟩
  have hquiet := Scene.notesOnly_sheet hscene app.scene
  rw [Scene.sheetRefusal, openSheet]
  rcases hsheet : scene.sheet.run app.scene with ⟨result, state, notes⟩
  have hmade : (Action.part App.scene (fun state app => { app with scene := state })
      scene.sheet).run app = ⟨result, { app with scene := state }, notes⟩ := by
    rw [Action.run_part, hsheet]
  rw [hsheet] at hquiet
  have hstate : state = (scene.sheet.run app.scene).state := (congrArg Outcome.state hsheet).symm
  rcases result with fault | e | sheet
  · rw [Action.run_bind_of_error hmade]
    exact .stopped fault _ _
  · rw [Action.run_bind_of_ok hmade]
    exact .refused _ state (.inr hstate) _ trivial
  rw [Action.run_bind_of_ok hmade]
  by_cases hfits : sheet.image.Fits .standard
  · have hopens := answers_openStage_of_fits scene hconfig ⟨state, .fresh sheet GpuDevice.fresh⟩
    have hstage := notesOnly_openStage admits_not_isRequest hscene config
      ⟨state, .fresh sheet GpuDevice.fresh⟩
    rcases hopened : (openStage scene config).run ⟨state, .fresh sheet GpuDevice.fresh⟩ with
      ⟨answer, shown, more⟩
    have hlend : (lend (.fresh sheet GpuDevice.fresh) (openStage scene config)).run
        { app with scene := state } = _ := run_lend hopened
    rw [hopened] at hopens hstage
    dsimp only
    rw [if_pos (show _ ∧ _ from hfits)]
    rcases answer with fault | e | u
    · rw [Action.run_bind_of_error hlend]
      exact .stopped fault _ _
    · cases hopens _ rfl sheet rfl hfits
    · rw [Action.run_bind_of_ok hlend]
      refine .opened shown.scene ⟨shown.stage, surface⟩ hwidth hheight _ fun before => ?_
      refine surfaceAfter_of_not_isRequest (fun n hn => ?_) (some surface)
      rcases List.mem_append.1 hn with hn | hn
      · exact hquiet n hn
      rcases List.mem_append.1 hn with hn | hn
      · exact hstage n hn
      · rw [List.mem_singleton.1 hn]
        rfl
  · obtain ⟨stage, more, hopened⟩ := run_openStage_of_large scene state hconfig hfits
    have hlend : (lend (.fresh sheet GpuDevice.fresh) (openStage scene config)).run
        { app with scene := state } = _ := run_lend hopened
    dsimp only
    rw [if_neg (show ¬ (_ ∧ _) from hfits), Action.run_bind_of_ok hlend]
    exact .refused _ state (.inr hstate) _ trivial

theorem attempted_openSurface (hscene : scene.Enclosed) (hconfig : config.validate = .ok ())
    (scale width height : Nat) :
    Attempted scene (platform.innerSize.getD (width, height)) app (fun _ => True)
      ([platform.adapterFailure.map fun reason =>
          .device (.other ("no suitable GPU adapter found: " ++ reason)),
        platform.deviceFailure.map fun reason => .device (.other reason),
        if platform.format.isNone then some (.device .notReady) else none,
        (scene.sheetRefusal app.scene).map .setup].findSome? id)
      ((openSurface scene options platform config scale width height).run app) := by
  refine Attempted.ask (P := fun _ => True) ?_ _ fun _ _ => trivial
  cases platform.adapterFailure with
  | some reason => exact attempted_refused _ trivial
  | none =>
  refine Attempted.ask (P := fun _ => True) ?_ _ fun _ _ => trivial
  cases platform.deviceFailure with
  | some reason => exact attempted_refused _ trivial
  | none =>
  cases platform.format with
  | none => exact attempted_refused _ trivial
  | some format =>
  cases platform.innerSize.getD (width, height) with
  | mk innerWidth innerHeight =>
  have hlast (r : Option RunError) : [r].findSome? id = r := by cases r <;> rfl
  change Attempted scene (innerWidth, innerHeight) app _
    ([(scene.sheetRefusal app.scene).map .setup].findSome? id) _
  rw [hlast]
  exact attempted_openSheet hscene hconfig (innerWidth, innerHeight)
    (surfaceConfig options platform format innerWidth innerHeight) rfl rfl _

/-- An attempt to open the window answers why it cannot be opened, and leaves nothing behind; where
there is no reason, the window is opened or the scene stops. -/
theorem attempted_openWindow (hscene : scene.Enclosed) (options : WindowOptions)
    (platform : Platform) (app : App α) :
    Attempted scene (platform.inner options (scene.config app.scene)) app
      (fun notes => surfaceAfter none notes = none) (scene.refusal platform app.scene)
      ((openWindow scene options platform).run app) := by
  rw [openWindow, Action.run_get_bind, Scene.refusal]
  dsimp only
  cases hconfig : (scene.config app.scene).validate with
  | error e => exact attempted_refused _ rfl
  | ok u =>
  have hsize := Platform.windowSize_of_valid (Config.validate_eq_ok_iff.1 hconfig) platform options
  rw [Action.run_ofExcept_bind, hsize]
  refine Attempted.ask (P := fun notes => surfaceAfter none notes = none) ?_ _ fun _ h => h
  cases platform.windowFailure with
  | some reason => exact attempted_refused _ rfl
  | none =>
  have hwindow (notes : List Note) (h : surfaceAfter none notes = none) :
      surfaceAfter none (notes ++ [.window .dropWindow]) = none := by
    rw [surfaceAfter_append, h]
    rfl
  refine Attempted.orClean ?_ .dropWindow hwindow
  refine Attempted.ask (P := fun notes => surfaceAfter none notes = none) ?_ _ fun _ h => h
  cases platform.surfaceFailure with
  | some reason => exact attempted_refused _ rfl
  | none =>
  -- However far the attempt came, the surface is given back last.
  have hsurface (notes : List Note) (_ : True) :
      surfaceAfter none (notes ++ [.window .dropSurface]) = none := by
    rw [surfaceAfter_append]
    rfl
  exact Attempted.orClean (attempted_openSurface hscene hconfig _ _ _) .dropSurface hsurface

end Open

end App

end Mosaic
