import Mosaic.Proofs.Window.Attempt
import Mosaic.Proofs.Window.FrameLoop

/-!
# The surface follows the window

A history lists the events that an application answered, latest first, each with what came of the
attempt to open the window, if one was made. The sides of the surface and the error that the
application keeps can be told from it (`Turn.sides`, `Turn.failure`): over any events, the surface
is set up with the sides that the window had last, none of them empty, and a window that cannot be
opened leaves nothing but its error (`App.surface_follows_window`).
-/

namespace Mosaic

/-- Only the text of an error of an image with too many pixels to be counted cannot be made. -/
theorem RunError.large_of_message {e : RunError} {fault : Fault} (h : e.message = .error fault) :
    ∃ width height length, e = .setup (.invalidImage width height length) ∧
      Bounded.Width.bits64.count ≤ width * height * 4 := by
  cases e with
  | eventLoop | window | device => cases h
  | setup e =>
  cases e with
  | invalidConfig | alreadyValid | invalidSpriteSize | device => cases h
  | invalidImage width height length =>
      refine ⟨width, height, length, rfl, ?_⟩
      by_contra hsmall
      have hbytes : width * height * 4 < Bounded.Width.bits64.count := Nat.not_le.1 hsmall
      have hpixels : width * height < Bounded.Width.bits64.count :=
        Nat.lt_of_le_of_lt (Nat.le_mul_of_pos_right _ (by decide)) hbytes
      let bytes := width * height * 4
      have hmessage : (RunError.setup (.invalidImage width height length)).message =
          .ok s!"sheet image of {width}x{height} needs {bytes} bytes, got {length}" := by
        rw [message, SetupError.message, Bounded.mul, Bounded.unsigned_of_lt hpixels]
        change (do let bytes ← Bounded.mul .bits64 (width * height) 4; pure _) = _
        rw [Bounded.mul, Bounded.unsigned_of_lt hbytes]
        rfl
      cases hmessage.symm.trans h

/-- The inner sides of a surface. -/
def Live.sides (live : Live) : Nat × Nat := (live.surface.width, live.surface.height)

/-- An event that was answered, with what came of the attempt to open the window, if one was made:
the inner size of the window, or why it could not be opened. -/
structure Turn where
  event : WindowEvent
  attempt : Option (Except RunError (Nat × Nat))

namespace Turn

/-- The sides that the surface should have, if the window is open: those of the last resize since it
was opened, or else of its inner size, each at least one. -/
def sides : List Turn → Option (Nat × Nat)
  | [] => none
  | turn :: past =>
    match turn.attempt, turn.event with
    | some (.ok (width, height)), _ => some (max 1 width, max 1 height)
    | _, .resized width height => (sides past).map fun _ => (max 1 width, max 1 height)
    | _, .exiting => none
    | _, _ => sides past

/-- Why the window could not be opened. -/
def refusal? (turn : Turn) : Option RunError :=
  match turn.attempt with
  | some (.error e) => some e
  | _ => none

/-- The error of the last attempt that failed. -/
def failure (past : List Turn) : Option RunError := past.findSome? refusal?

end Turn

/-- A scene that only asks and edits the canvas asks nothing of the platform. -/
theorem Scene.Modest.enclosed {α : Type} {scene : Scene α} (h : scene.Modest)
    (hsheet : Action.Traces Action.Silent scene.sheet) : scene.Enclosed := by
  have hquiet {notes : List Note} (hnotes : effects notes = []) :
      ∀ n ∈ notes, n.isRequest = false := by
    intro n hn
    have hacts := List.filter_eq_nil_iff.1 hnotes n hn
    cases n with
    | window request => exact absurd rfl hacts
    | log | gpu | remark => rfl
  rintro n (⟨state, hn⟩ | ⟨shown, hn⟩ | ⟨elapsed, shown, hn⟩)
  · exact hquiet (hsheet state) n hn
  · exact hquiet (h.start shown).silent n hn
  · exact hquiet (h.frame elapsed shown).silent n hn

/-- With its calls listed, a scene asks no more of the platform. -/
theorem Scene.Enclosed.observed {α : Type} {scene : Scene α} (h : scene.Enclosed) :
    scene.observed.Enclosed := by
  rintro n (⟨state, hn⟩ | ⟨shown, hn⟩ | ⟨elapsed, shown, hn⟩)
  · exact h n (.inl ⟨state.state, hn⟩)
  · exact h n (.inr (.inl ⟨shown.plain, hn⟩))
  · exact h n (.inr (.inr ⟨elapsed, shown.plain, hn⟩))

namespace App

variable {α : Type}

/-- What comes of the attempt that the event makes to open the window, if it makes one. -/
def attempt (scene : Scene α) (options : WindowOptions) (platform : Platform) (app : App α) :
    WindowEvent → Option (Except RunError (Nat × Nat))
  | .resumed =>
    if app.live.isSome then none
    else
      match scene.refusal platform app.scene with
      | some e => some (.error e)
      | none => some (.ok (platform.inner options (scene.config app.scene)))
  | _ => none

/-- The states of an application after events that were answered, each on a platform of its own,
with their history and all that was noted. -/
inductive Course (scene : Scene α) (options : WindowOptions) (start : App α) :
    List Turn → List Note → App α → Prop
  | start : Course scene options start [] [] start
  | next {past : List Turn} {notes : List Note} {app : App α}
      (h : Course scene options start past notes app) (platform : Platform) (event : WindowEvent)
      (hok : ((deliver scene options platform event).run app).result = .ok ()) :
      Course scene options start (⟨event, app.attempt scene options platform event⟩ :: past)
        (notes ++ ((deliver scene options platform event).run app).notes)
        ((deliver scene options platform event).run app).state

/-! ### Resuming without a window -/

section Resume

variable {scene : Scene α} {options : WindowOptions} {platform : Platform} {app : App α}

theorem run_resume_of_closed (hclosed : app.live = none) :
    (resume scene options platform).run app = (openWindow scene options platform >>= fun
      | .ok () => Action.ask .requestRedraw
      | .error e => do
        let reason ← Action.ofExcept e.message
        Action.log .error s!"failed to initialize renderer: {reason}"
        Action.modify fun app => { app with error := some e }
        exit).run app := by
  rw [resume, Action.run_get_bind, hclosed]
  rfl

/-- A window that cannot be opened leaves nothing behind but its error, and the end is asked for,
unless there is no text for the error. -/
theorem resume_of_refusal (hscene : scene.Enclosed) (options : WindowOptions)
    (hclosed : app.live = none) {e : RunError}
    (hrefusal : scene.refusal platform app.scene = some e) :
    ∃ state notes, (state = app.scene ∨ state = (scene.sheet.run app.scene).state) ∧
      surfaceAfter none notes = none ∧
      (resume scene options platform).run app =
        match e.message with
        | .ok reason =>
          ⟨.ok (), { app with scene := state, error := some e, ending := true },
            notes ++ [.log .error s!"failed to initialize renderer: {reason}", .window .exit]⟩
        | .error fault => ⟨.error fault, { app with scene := state }, notes⟩ := by
  have hattempt := attempted_openWindow hscene options platform app
  rcases hrun : (openWindow scene options platform).run app with ⟨result, app', notes⟩
  rw [hrun, hrefusal] at hattempt
  obtain ⟨_, state, hstate, _, hsurface⟩ := hattempt
  refine ⟨state, notes, hstate, hsurface, ?_⟩
  rw [run_resume_of_closed hclosed, Action.run_bind_of_ok hrun]
  dsimp only
  rw [Action.run_ofExcept_bind]
  cases e.message with
  | ok reason => rfl
  | error fault =>
      dsimp only
      rw [List.append_nil]

/-- Without a reason against it the window is opened and its surface set up, if the scene does not
stop. -/
theorem resume_of_none (hscene : scene.Enclosed) (hclosed : app.live = none)
    (hrefusal : scene.refusal platform app.scene = none)
    (hok : ((resume scene options platform).run app).result = .ok ()) :
    ∃ state live notes,
      live.surface.width = max 1 (platform.inner options (scene.config app.scene)).1 ∧
      live.surface.height = max 1 (platform.inner options (scene.config app.scene)).2 ∧
      (∀ before, surfaceAfter before notes = some live.surface) ∧
      (resume scene options platform).run app =
        ⟨.ok (), { app with scene := state, live := some live },
          notes ++ [.window .requestRedraw]⟩ := by
  have hattempt := attempted_openWindow hscene options platform app
  rcases hrun : (openWindow scene options platform).run app with ⟨result, app', notes⟩
  rw [hrun, hrefusal] at hattempt
  rw [run_resume_of_closed hclosed] at hok ⊢
  cases hattempt with
  | opened state live hwidth hheight notes hsurface =>
      refine ⟨state, live, notes, hwidth, hheight, hsurface, ?_⟩
      rw [Action.run_bind_of_ok hrun]
      rfl
  | stopped fault app' notes =>
      rw [Action.run_bind_of_error hrun] at hok
      cases hok

end Resume

/-! ### Redrawing -/

/-- The surface stays as it is, and so does the error. -/
def KeepsSurface (before after : App α) : Prop :=
  after.live.map Live.surface = before.live.map Live.surface ∧ after.error = before.error

instance : IsPreorder (App α) KeepsSurface where
  refl _ := ⟨rfl, rfl⟩
  trans _ _ _ h h' := ⟨h'.1.trans h.1, h'.2.trans h.2⟩

theorem keepsSurface_onStage (action : Action (Stage GpuDevice) Unit) :
    Action.Follows KeepsSurface (onStage action : Action (App α) Unit) := by
  intro app
  cases hlive : app.live with
  | none =>
      rw [onStage, Action.run_get_bind, hlive]
      exact ⟨rfl, rfl⟩
  | some live =>
      rcases hrun : action.run live.stage with ⟨result, stage, notes⟩
      rw [run_onStage hlive hrun, KeepsSurface, hlive]
      exact ⟨rfl, rfl⟩

theorem keepsSurface_showFrame (options : WindowOptions) (surface : SurfaceConfig) :
    Action.Follows KeepsSurface (showFrame options surface : Action (App α) Unit) := by
  have hacquire : Action.Follows KeepsSurface (acquireFrame : Action (App α) _) :=
    fun _ => ⟨rfl, rfl⟩
  have hask (request : WindowRequest) :
      Action.Follows KeepsSurface (Action.ask request : Action (App α) Unit) := fun _ => ⟨rfl, rfl⟩
  refine Action.follows_bind hacquire fun failure => ?_
  cases failure with
  | some failure =>
      refine Action.follows_bind (Action.follows_log _ _) fun _ => ?_
      refine Action.follows_bind (keepsSurface_onStage _) fun _ => ?_
      exact Action.follows_bind (hask _) fun _ => hask _
  | none => exact Action.follows_bind (keepsSurface_onStage _) fun _ => hask _

/-- An encoding notes commands and lines of the log. -/
theorem notesOnly_encode {P : Note → Prop} (hlog : ∀ level text, P (.log level text))
    (hgpu : ∀ command, P (.gpu command)) (clear : Colour) (viewport : Viewport) :
    Action.Traces (Action.NotesOnly P) (GpuDevice.encode clear viewport) := by
  refine Action.traces_bind (Action.notesOnly_note (hgpu _)) fun _ => ?_
  refine Action.traces_bind (Action.notesOnly_note (hgpu _)) fun _ => ?_
  refine Action.traces_bind Action.traces_get fun device => ?_
  refine Action.traces_bind (Action.traces_each fun call _ => ?_) fun _ => ?_
  · refine Action.traces_bind Action.traces_get fun device => ?_
    cases device.drawStates.get? call.drawState with
    | none => exact Action.notesOnly_note (hlog _ _)
    | some mesh =>
        dsimp only
        split
        · exact Action.notesOnly_note (hlog _ _)
        split
        · exact Action.notesOnly_note (hlog _ _)
        · exact Action.notesOnly_note (hgpu _)
  · refine Action.traces_bind (Action.traces_modify fun _ _ hn => absurd hn List.not_mem_nil)
      fun _ => Action.notesOnly_note (hgpu _)

/-- A surface that is set up as the application has it is set up so after a frame. -/
theorem notesOnly_showFrame (options : WindowOptions) (surface : SurfaceConfig) :
    Action.Traces (Action.NotesOnly fun n => n.surface (some surface) = some surface)
      (showFrame options surface : Action (App α) Unit) := by
  have hadmits : GpuDevice.Admits fun n => n.surface (some surface) = some surface :=
    ⟨fun _ _ => rfl, fun _ _ _ _ => rfl, fun _ _ => rfl⟩
  have hacquire : Action.Traces (Action.NotesOnly fun n => n.surface (some surface) = some surface)
      (acquireFrame : Action (App α) _) := by
    intro app n hn
    rw [run_acquireFrame] at hn
    rw [List.mem_singleton.1 hn]
    rfl
  refine Action.traces_bind hacquire fun failure => ?_
  cases failure with
  | some failure =>
      refine Action.traces_bind (Action.notesOnly_note rfl) fun _ => ?_
      refine Action.traces_bind (notesOnly_onStage (Stage.notesOnly_discardPending hadmits))
        fun _ => ?_
      exact Action.traces_bind (Action.notesOnly_note rfl) fun _ => Action.notesOnly_note rfl
  | none =>
      refine Action.traces_bind (notesOnly_onStage ?_) fun _ => Action.notesOnly_note rfl
      refine Action.traces_bind (Stage.notesOnly_render hadmits) fun _ => ?_
      refine Action.traces_bind (fun _ _ hn => absurd hn List.not_mem_nil) fun width => ?_
      refine Action.traces_bind (fun _ _ hn => absurd hn List.not_mem_nil) fun height => ?_
      refine Action.traces_bind (Action.traces_ofExcept _) fun viewport => ?_
      refine Action.traces_bind ?_ fun _ => Action.notesOnly_note rfl
      exact Action.traces_part (notesOnly_encode (fun _ _ => rfl) (fun _ => rfl) _ viewport)
        fun _ _ _ hnotes => hnotes

/-- A redraw of an open window leaves the surface and the error as they are, if it does not stop. -/
theorem redraw_keepsSurface {scene : Scene α} (hscene : scene.Enclosed) (options : WindowOptions)
    {app : App α} {live : Live} (hlive : app.live = some live)
    (hok : ((redraw scene options).run app).result = .ok ()) :
    KeepsSurface app ((redraw scene options).run app).state ∧
      surfaceAfter (some live.surface) ((redraw scene options).run app).notes =
        some live.surface := by
  have hquiet := Scene.notesOnly_frame hscene app.elapsed ⟨app.scene, live.stage⟩
  rcases hasked : (scene.frame app.elapsed).run ⟨app.scene, live.stage⟩ with
    ⟨fault | go, shown, notes⟩
  · rw [run_redraw_of_fault hlive hasked] at hok
    cases hok
  rw [hasked] at hquiet
  have happ : KeepsSurface app (app.asked live shown) := by
    rw [KeepsSurface, hlive]
    exact ⟨rfl, rfl⟩
  rw [run_redraw_of_asked hlive hasked]
  dsimp only
  rw [surfaceAfter_append, surfaceAfter_of_not_isRequest hquiet]
  cases go with
  | false => exact ⟨happ, rfl⟩
  | true =>
      exact ⟨trans_of KeepsSurface happ (keepsSurface_showFrame options live.surface _),
        surfaceAfter_of_forall (notesOnly_showFrame options live.surface _)⟩

/-! ### The application agrees with its history -/

/-- The surface has the sides that the history says and is set up as the application has it, no side
is empty, and the error is that of the last attempt that failed. -/
structure Fitted (past : List Turn) (notes : List Note) (app : App α) : Prop where
  sides : app.live.map Live.sides = Turn.sides past
  nonempty : ∀ live, app.live = some live → 1 ≤ live.surface.width ∧ 1 ≤ live.surface.height
  surface : surfaceAfter none notes = app.live.map Live.surface
  error : app.error = Turn.failure past

theorem fitted_fresh (platform : Platform) (state : α) :
    Fitted [] [] (fresh platform state) where
  sides := rfl
  nonempty _ h := by cases h
  surface := rfl
  error := rfl

section Fitted

variable {past : List Turn} {notes more : List Note} {app app' : App α}

/-- What leaves the surface and the error as they are leaves the application fitted. -/
theorem Fitted.kept (h : Fitted past notes app) {turn : Turn}
    (hsides : Turn.sides (turn :: past) = Turn.sides past)
    (hfailure : Turn.failure (turn :: past) = Turn.failure past) (hkeeps : KeepsSurface app app')
    (hmore : surfaceAfter (app.live.map Live.surface) more = app.live.map Live.surface) :
    Fitted (turn :: past) (notes ++ more) app' where
  sides := by
    have hlive := congrArg (Option.map fun surface : SurfaceConfig =>
      (surface.width, surface.height)) hkeeps.1
    rw [Option.map_map, Option.map_map] at hlive
    rw [hsides, ← h.sides]
    exact hlive
  nonempty live hlive := by
    have hsurface := hkeeps.1
    rw [hlive] at hsurface
    obtain ⟨live', hlive', hsame⟩ := Option.map_eq_some_iff.1 hsurface.symm
    rw [← hsame]
    exact h.nonempty live' hlive'
  surface := by rw [surfaceAfter_append, h.surface, hmore, hkeeps.1]
  error := by rw [hkeeps.2, h.error, hfailure]

/-- A surface that was just set up has the sides of the window, if they are those that the history
tells. -/
theorem Fitted.setUp (h : Fitted past notes app) {turn : Turn} {live : Live} (size : Nat × Nat)
    (hlive : app'.live = some live) (hwidth : live.surface.width = max 1 size.1)
    (hheight : live.surface.height = max 1 size.2)
    (hsides : Turn.sides (turn :: past) = some (max 1 size.1, max 1 size.2))
    (hfailure : Turn.failure (turn :: past) = Turn.failure past) (herror : app'.error = app.error)
    (hmore : surfaceAfter (app.live.map Live.surface) more = some live.surface) :
    Fitted (turn :: past) (notes ++ more) app' where
  sides := by
    rw [hlive, hsides, Option.map_some, Live.sides, hwidth, hheight]
  nonempty live' hlive' := by
    cases hlive.symm.trans hlive'
    rw [hwidth, hheight]
    exact ⟨Nat.le_max_left _ _, Nat.le_max_left _ _⟩
  surface := by rw [surfaceAfter_append, h.surface, hmore, hlive, Option.map_some]
  error := by rw [herror, h.error, hfailure]

/-- Where nothing is left of the window, nothing is left of the surface. -/
theorem Fitted.closed (h : Fitted past notes app) {turn : Turn} (hlive : app'.live = none)
    (hsides : Turn.sides (turn :: past) = none)
    (herror : app'.error = Turn.failure (turn :: past))
    (hmore : surfaceAfter (app.live.map Live.surface) more = none) :
    Fitted (turn :: past) (notes ++ more) app' where
  sides := by rw [hlive, hsides, Option.map_none]
  nonempty live' hlive' := by cases hlive.symm.trans hlive'
  surface := by rw [surfaceAfter_append, h.surface, hmore, hlive, Option.map_none]
  error := herror

variable {scene : Scene α}

theorem attempt_of_open (scene : Scene α) (options : WindowOptions) (platform : Platform)
    {live : Live} (hlive : app.live = some live) :
    app.attempt scene options platform .resumed = none := by
  simp [attempt, hlive]

theorem Fitted.resumed (hscene : scene.Enclosed) (h : Fitted past notes app)
    (options : WindowOptions) (platform : Platform)
    (hok : ((resume scene options platform).run app).result = .ok ()) :
    Fitted (⟨.resumed, app.attempt scene options platform .resumed⟩ :: past)
      (notes ++ .window (.event .resumed) :: ((resume scene options platform).run app).notes)
      ((resume scene options platform).run app).state := by
  cases hlive : app.live with
  | some live =>
      have hresume : (resume scene options platform).run app = ⟨.ok (), app, []⟩ := by
        rw [resume, Action.run_get_bind, hlive]
        rfl
      rw [hresume, attempt_of_open scene options platform hlive]
      exact h.kept rfl rfl (refl_of KeepsSurface app) rfl
  | none =>
  cases hrefusal : scene.refusal platform app.scene with
  | none =>
      obtain ⟨state, live, opening, hwidth, hheight, hsurface, hrun⟩ :=
        resume_of_none hscene hlive hrefusal hok
      have hattempt : app.attempt scene options platform .resumed =
          some (.ok (platform.inner options (scene.config app.scene))) := by
        simp [attempt, hlive, hrefusal]
      rw [hrun, hattempt]
      refine h.setUp _ rfl hwidth hheight rfl rfl rfl ?_
      change surfaceAfter _ (opening ++ [.window .requestRedraw]) = _
      rw [surfaceAfter_append]
      exact congrArg (surfaceAfter · [.window .requestRedraw]) (hsurface _)
  | some e =>
      obtain ⟨state, opening, -, hsurface, hrun⟩ :=
        resume_of_refusal hscene options hlive hrefusal
      have hattempt : app.attempt scene options platform .resumed = some (.error e) := by
        simp [attempt, hlive, hrefusal]
      rw [hattempt]
      rw [hrun] at hok ⊢
      cases hmessage : e.message with
      | error fault =>
          rw [hmessage] at hok
          cases hok
      | ok reason =>
          have hsides : Turn.sides past = none := by rw [← h.sides, hlive, Option.map_none]
          refine h.closed hlive hsides rfl ?_
          rw [hlive]
          change surfaceAfter none (opening ++ _) = none
          rw [surfaceAfter_append, hsurface]
          rfl

/-- What one answered event does to an application is what it adds to the history. -/
theorem Fitted.deliver (hscene : scene.Enclosed) (h : Fitted past notes app)
    (options : WindowOptions) (platform : Platform) {event : WindowEvent}
    (hok : ((App.deliver scene options platform event).run app).result = .ok ()) :
    Fitted (⟨event, app.attempt scene options platform event⟩ :: past)
      (notes ++ ((App.deliver scene options platform event).run app).notes)
      ((App.deliver scene options platform event).run app).state := by
  rw [run_deliver] at hok ⊢
  cases event with
  | resumed => exact h.resumed hscene options platform hok
  | redraw time =>
      let now : App α := { app with clock := app.clock + time }
      change ((redraw scene options).run now).result = _ at hok
      have hredraw : (handle scene options platform (.redraw time)).run app =
          (redraw scene options).run now := rfl
      rw [hredraw]
      cases hlive : app.live with
      | none =>
          have hclosed : now.live = none := hlive
          rw [run_redraw_of_closed hclosed]
          exact h.kept rfl rfl ⟨rfl, rfl⟩ rfl
      | some live =>
          have hopen : now.live = some live := hlive
          obtain ⟨hkeeps, hsurface⟩ := redraw_keepsSurface hscene options hopen hok
          refine h.kept rfl rfl ⟨hkeeps.1, hkeeps.2⟩ ?_
          rw [hlive]
          exact hsurface
  | resized width height =>
      cases hlive : app.live with
      | none =>
          have hsides : Turn.sides past = none := by rw [← h.sides, hlive, Option.map_none]
          rw [handle, run_resize_of_closed hlive]
          exact h.kept (by simp [Turn.sides, attempt, hsides]) rfl (refl_of KeepsSurface app) rfl
      | some live =>
          have hsides : Turn.sides past = some live.sides := by
            rw [← h.sides, hlive, Option.map_some]
          rw [handle, run_resize_of_open hlive]
          exact h.setUp (width, height) rfl rfl rfl
            (by simp [Turn.sides, attempt, hsides]) rfl rfl rfl
  | close | focused | destroyed => exact h.kept rfl rfl ⟨rfl, rfl⟩ rfl
  | exiting =>
      cases hlive : app.live with
      | none =>
          rw [handle, run_giveBack_of_closed hlive]
          exact h.closed hlive rfl h.error (by rw [hlive]; rfl)
      | some live =>
          obtain ⟨last, hrun⟩ := run_giveBack_of_open hlive hok
          rw [handle, hrun]
          refine h.closed rfl rfl h.error ?_
          change surfaceAfter _ (last ++ _) = none
          rw [surfaceAfter_append]
          rfl

end Fitted

section Course

variable {scene : Scene α} {options : WindowOptions} {start app : App α} {past : List Turn}
  {notes : List Note}

theorem Course.fitted (hscene : scene.Enclosed) {platform : Platform} {state : α}
    (h : Course scene options (fresh platform state) past notes app) : Fitted past notes app := by
  induction h with
  | start => exact fitted_fresh platform state
  | next h platform event hok ih => exact ih.deliver hscene options platform hok

/-- Events that are delivered until the end is asked for go on with the course. -/
theorem Course.deliverAll (h : Course scene options start past notes app) (platform : Platform)
    {events : List WindowEvent}
    (hok : ((App.deliverAll scene options platform events).run app).result = .ok ()) :
    ∃ later n, later.map Turn.event = (events.take n).reverse ∧
      Course scene options start (later ++ past)
        (notes ++ ((App.deliverAll scene options platform events).run app).notes)
        ((App.deliverAll scene options platform events).run app).state := by
  induction events generalizing past notes app with
  | nil =>
      refine ⟨[], 0, rfl, ?_⟩
      change Course scene options start past (notes ++ []) app
      rwa [List.append_nil]
  | cons event rest ih =>
      rw [App.deliverAll] at hok ⊢
      rcases hrun : (deliver scene options platform event).run app with ⟨fault | u, app', more⟩
      · rw [Action.run_bind_of_error hrun] at hok
        cases hok
      have hnext := h.next platform event (by rw [hrun])
      rw [hrun] at hnext
      rw [Action.run_bind_of_ok hrun, Action.run_get_bind] at hok ⊢
      cases hending : app'.ending with
      | true =>
          refine ⟨[⟨event, app.attempt scene options platform event⟩], 1, rfl, ?_⟩
          simpa using hnext
      | false =>
          simp only [hending] at hok
          obtain ⟨later, n, hevents, hcourse⟩ := ih hnext hok
          refine ⟨later ++ [⟨event, app.attempt scene options platform event⟩], n + 1, ?_, ?_⟩
          · simp [hevents]
          · simpa using hcourse

/-- A run whose event loop ends normally delivers events, and at last that the program ends. What it
answers is the error that the application keeps then. -/
theorem course_run (scene : Scene α) (options : WindowOptions) {platform : Platform} (state : α)
    (hloop : platform.eventLoopFailure = none) (hend : platform.runFailure = none)
    {answer : Except RunError Unit}
    (hanswer : (run scene options platform state).result = .ok answer) :
    ∃ past n, past.map Turn.event = .exiting :: (platform.events.take n).reverse ∧
      Course scene options (fresh platform state) past (run scene options platform state).notes
        (run scene options platform state).state ∧
      answer = match (run scene options platform state).state.error with
        | some e => .error e
        | none => .ok () := by
  rw [run, hloop] at hanswer ⊢
  dsimp only [loop] at hanswer ⊢
  have hrun := Action.run_onFault_of_answer hanswer
  rw [Action.run] at hrun
  rw [hrun] at hanswer ⊢
  rcases hall : (App.deliverAll scene options platform platform.events).run
    (fresh platform state) with ⟨fault | u, app, notes⟩
  · rw [Action.run_bind_of_error hall] at hanswer
    cases hanswer
  have hstart : Course scene options (fresh platform state) [] [] (fresh platform state) := .start
  obtain ⟨past, n, hevents, hcourse⟩ := hstart.deliverAll platform (congrArg Outcome.result hall)
  rw [hall, List.append_nil, List.nil_append] at hcourse
  rw [Action.run_bind_of_ok hall, hend] at hanswer ⊢
  dsimp only at hcourse hanswer ⊢
  rcases hexit : (deliver scene options platform .exiting).run app with ⟨fault | u, app', more⟩
  · rw [Action.run_bind_of_error hexit] at hanswer
    cases hanswer
  have hnext := hcourse.next platform .exiting (congrArg Outcome.result hexit)
  rw [hexit] at hnext
  rw [Action.run_bind_of_ok hexit, Action.run_get_bind] at hanswer ⊢
  refine ⟨⟨.exiting, app.attempt scene options platform .exiting⟩ :: past, n,
    congrArg (WindowEvent.exiting :: ·) hevents, ?_, ?_⟩
  · cases app'.error <;> simpa using hnext
  · cases herror : app'.error with
    | none =>
        rw [herror] at hanswer
        cases hanswer
        simp [herror]
    | some e =>
        rw [herror] at hanswer
        cases hanswer
        simp [herror]

end Course

/-! ### What an event comes to -/

/-- What comes of resuming a program whose window cannot be opened. -/
structure Refused (scene : Scene α) (e : RunError) (app : App α) (outcome : Outcome (App α) Unit) :
    Prop where
  live : outcome.state.live = none
  /-- The scene did no more than to make its sheet. -/
  scene : outcome.state.scene = app.scene ∨
    outcome.state.scene = (scene.sheet.run app.scene).state
  /-- The error is kept, and the end is asked for. -/
  ended : ∀ reason, e.message = .ok reason →
    outcome.result = .ok () ∧ outcome.state.error = some e ∧ outcome.state.ending = true ∧
      .window .exit ∈ outcome.notes
  /-- An error without a text stops the program; only that of an image with too many bytes to be
  counted has none. -/
  mute : ∀ fault, e.message = .error fault →
    outcome.result = .error fault ∧ ∃ width height length,
      e = .setup (.invalidImage width height length) ∧
        Bounded.Width.bits64.count ≤ width * height * 4

section Events

variable {scene : Scene α}

theorem refused_resumed (hscene : scene.Enclosed) (options : WindowOptions) {platform : Platform}
    {app : App α} (hclosed : app.live = none) {e : RunError}
    (hrefusal : scene.refusal platform app.scene = some e) :
    Refused scene e app ((deliver scene options platform .resumed).run app) := by
  obtain ⟨state, notes, hstate, -, hrun⟩ := resume_of_refusal hscene options hclosed hrefusal
  rw [run_deliver, handle, hrun]
  cases hmessage : e.message with
  | error fault =>
      refine ⟨hclosed, hstate, fun reason h => ?_, fun fault' h => ?_⟩
      · cases hmessage.symm.trans h
      · cases hmessage.symm.trans h
        exact ⟨rfl, RunError.large_of_message hmessage⟩
  | ok text =>
      refine ⟨hclosed, hstate, fun reason h => ?_, fun fault h => ?_⟩
      · exact ⟨rfl, rfl, rfl, by simp⟩
      · cases hmessage.symm.trans h

end Events

/-- Over any events that are answered, each on a platform of its own: while the window is open, the
surface was set up last as the application has it, with the sides of the last resize since it was
opened or else of its inner size, each at least one. A redraw of it shows one pass at most, in the
rectangle in which these sides show the canvas, and no other event shows one but of the scene. A
window that cannot be opened leaves nothing but its error, the scene is not asked to start, and
resizes and redraws come to nothing while the window is not open. A run whose event loop ends
normally answers the error of the last attempt that failed, if there is one. -/
theorem surface_follows_window {scene : Scene α} (hscene : scene.Enclosed) (options : WindowOptions)
    (platform : Platform) (state : α) :
    (∀ past notes app, Course scene options (fresh platform state) past notes app →
      Fitted past notes app ∧
        ∀ now : Platform,
          (app.live = none →
            (∀ e, scene.refusal now app.scene = some e →
              Refused scene e app ((deliver scene options now .resumed).run app)) ∧
            (∀ width height, (deliver scene options now (.resized width height)).run app =
              ⟨.ok (), app, [.window (.event (.resized width height))]⟩) ∧
            ∀ time, (deliver scene options now (.redraw time)).run app =
              ⟨.ok (), { app with clock := app.clock + time },
                [.window (.event (.redraw time))]⟩) ∧
          (∀ live, app.live = some live → ∀ time,
            let asked := (scene.frame (elapsed { app with clock := app.clock + time })).run
              ⟨app.scene, live.stage⟩
            ∃ rest, ((deliver scene options now (.redraw time)).run app).notes =
                .window (.event (.redraw time)) :: (asked.notes ++ rest) ∧
              Shows options live.surface asked.state.stage.canvas rest) ∧
          ∀ event, (∀ time, event ≠ .redraw time) →
            ∀ n ∈ ((deliver scene options now event).run app).notes, n.ofPass → scene.Makes n) ∧
      (∀ (now : Platform) (app : App (Observed α)) (e : RunError), app.live = none →
        scene.refusal now app.scene.state = some e →
          ((deliver scene.observed options now .resumed).run app).state.scene.calls =
            app.scene.calls) ∧
      (platform.eventLoopFailure = none → platform.runFailure = none →
        ∀ answer, (run scene options platform state).result = .ok answer →
          ∃ past n, past.map Turn.event = .exiting :: (platform.events.take n).reverse ∧
            Course scene options (fresh platform state) past
              (run scene options platform state).notes (run scene options platform state).state ∧
            answer = match Turn.failure past with
              | some e => .error e
              | none => .ok ()) := by
  refine ⟨fun past notes app hcourse => ?_, fun now app e hclosed hrefusal => ?_,
    fun hloop hend answer hanswer => ?_⟩
  · refine ⟨hcourse.fitted hscene, fun now => ⟨fun hclosed => ⟨?_, ?_, ?_⟩, ?_, ?_⟩⟩
    · exact fun e hrefusal => refused_resumed hscene options hclosed hrefusal
    · intro width height
      rw [run_deliver, handle, run_resize_of_closed hclosed]
    · intro time
      let later : App α := { app with clock := app.clock + time }
      have hlater : later.live = none := hclosed
      exact congrArg (fun outcome => Outcome.mk outcome.result outcome.state
        (.window (.event (.redraw time)) :: outcome.notes)) (run_redraw_of_closed hlater)
    · intro live hlive time
      let later : App α := { app with clock := app.clock + time }
      have hlater : later.live = some live := hlive
      obtain ⟨rest, hnotes, hshows⟩ := shows_redraw scene options hlater
      exact ⟨rest, congrArg (Note.window (.event (.redraw time)) :: ·) hnotes, hshows⟩
    · exact fun event hevent n hn hpass => makes_of_ofPass hevent hn hpass
  · obtain h | h := (refused_resumed hscene.observed options hclosed hrefusal).scene
    · rw [h]
    · rw [h]
      rfl
  · obtain ⟨past, n, hevents, hcourse, herror⟩ :=
      course_run scene options state hloop hend hanswer
    refine ⟨past, n, hevents, hcourse, ?_⟩
    rw [← (hcourse.fitted hscene).error]
    exact herror

/-- A platform on which no window can be opened. -/
def deniedPlatform : Platform := { Platform.ordinary with windowFailure := some "no display" }

theorem surface_follows_window_briefScene :
    let denied := (deliver briefScene .standard deniedPlatform .resumed).run (fresh .ordinary 0)
    let opened := (deliver briefScene .standard .ordinary .resumed).run denied.state
    let resized := (deliver briefScene .standard .ordinary (.resized 0 100)).run opened.state
    briefScene.Enclosed ∧ denied.state.live.isNone ∧
      resized.state.error = some (.window "no display") ∧
      resized.state.live.map Live.sides = some (1, 100) ∧
      surfaceAfter none (denied.notes ++ opened.notes ++ resized.notes) =
        resized.state.live.map Live.surface := by
  intro denied opened resized
  have hscene : briefScene.Enclosed := modest_briefScene.enclosed (Action.traces_pure _)
  have hdenied : denied.result = .ok () := by decide +kernel
  have hopened : opened.result = .ok () := by decide +kernel
  have hresized : resized.result = .ok () := by decide +kernel
  have hstart : Course briefScene .standard (fresh .ordinary 0) [] [] (fresh .ordinary 0) := .start
  have hcourse := ((hstart.next deniedPlatform .resumed hdenied).next .ordinary .resumed
    hopened).next .ordinary (.resized 0 100) hresized
  have hrefusal : briefScene.refusal deniedPlatform 0 = some (.window "no display") := rfl
  obtain ⟨hcourses, -⟩ := surface_follows_window hscene .standard .ordinary 0
  have hrefused := (((hcourses _ _ _ hstart).2 deniedPlatform).1 rfl).1 _ hrefusal
  have hfitted := (hcourses _ _ _ hcourse).1
  refine ⟨hscene, ?_, hfitted.error.trans ?_, hfitted.sides.trans ?_, hfitted.surface⟩
  · exact Option.isNone_iff_eq_none.2 hrefused.live
  · decide +kernel
  · decide +kernel

end App

end Mosaic
