import Mosaic.Proofs.Gpu.Waiting
import Mosaic.Proofs.Window.Redraw

/-!
# Which events show a pass

A scene is `Enclosed` when it asks nothing of the platform. The application shows a pass of its own
at a redraw alone (`App.notesOnly_deliver`), and the rectangle of that pass is where the canvas fits
the surface as it is set up (`App.Shows`). What is asked of the platform tells how the surface was
set up last (`surfaceAfter`).
-/

namespace Mosaic

namespace Note

/-- The note is of a request to the platform. -/
def isRequest : Note → Bool
  | window _ => true
  | _ => false

/-- The note is of a command that belongs to a pass. -/
def ofPass : Note → Bool
  | gpu (.beginPass _) | gpu (.setViewport ..) | gpu (.draw _) | gpu .submit => true
  | _ => false

/-- How the surface is set up after a note. A surface that was just made is not set up, and neither
is one that was given back. -/
def surface (before : Option SurfaceConfig) : Note → Option SurfaceConfig
  | window (.configure config) => some config
  | window .makeSurface | window .dropSurface => none
  | _ => before

end Note

/-! ### How the surface is set up -/

/-- How the surface is set up after some notes. -/
def surfaceAfter (before : Option SurfaceConfig) (notes : List Note) : Option SurfaceConfig :=
  notes.foldl Note.surface before

theorem surfaceAfter_append (before : Option SurfaceConfig) (first second : List Note) :
    surfaceAfter before (first ++ second) = surfaceAfter (surfaceAfter before first) second :=
  List.foldl_append

theorem surfaceAfter_of_forall {before : Option SurfaceConfig} {notes : List Note}
    (h : ∀ n ∈ notes, n.surface before = before) : surfaceAfter before notes = before := by
  induction notes with
  | nil => rfl
  | cons n rest ih =>
      have hn := h n List.mem_cons_self
      rw [surfaceAfter, List.foldl_cons, hn]
      exact ih fun m hm => h m (List.mem_cons_of_mem n hm)

theorem surface_of_not_isRequest {n : Note} (h : n.isRequest = false)
    (before : Option SurfaceConfig) : n.surface before = before := by
  cases n with
  | window request => cases h
  | log | gpu | remark => rfl

theorem surfaceAfter_of_not_isRequest {notes : List Note} (h : ∀ n ∈ notes, n.isRequest = false)
    (before : Option SurfaceConfig) : surfaceAfter before notes = before :=
  surfaceAfter_of_forall fun n hn => surface_of_not_isRequest (h n hn) before

/-! ### What a scene notes -/

namespace Scene

variable {α : Type}

/-- The scene makes the note on some state. -/
def Makes (scene : Scene α) (n : Note) : Prop :=
  (∃ state, n ∈ (scene.sheet.run state).notes) ∨ (∃ shown, n ∈ (scene.start.run shown).notes) ∨
    ∃ elapsed shown, n ∈ ((scene.frame elapsed).run shown).notes

/-- The scene asks nothing of the platform. -/
def Enclosed (scene : Scene α) : Prop := ∀ n, scene.Makes n → n.isRequest = false

variable {scene : Scene α} {P : Note → Prop}

theorem notesOnly_sheet (h : ∀ n, scene.Makes n → P n) :
    Action.Traces (Action.NotesOnly P) scene.sheet := fun state n hn => h n (.inl ⟨state, hn⟩)

theorem notesOnly_start (h : ∀ n, scene.Makes n → P n) :
    Action.Traces (Action.NotesOnly P) scene.start :=
  fun shown n hn => h n (.inr (.inl ⟨shown, hn⟩))

theorem notesOnly_frame (h : ∀ n, scene.Makes n → P n) (elapsed : Nat) :
    Action.Traces (Action.NotesOnly P) (scene.frame elapsed) :=
  fun shown n hn => h n (.inr (.inr ⟨elapsed, shown, hn⟩))

end Scene

/-! ### What a stage notes -/

namespace Stage

open GpuDevice

variable {P : Note → Prop}

theorem notesOnly_setup (h : Admits P) (c : Config) :
    Action.Traces (Action.NotesOnly P) (setup c : Action (Stage GpuDevice) _) :=
  traces_setup (fun d level text => Action.notesOnly_singleton (h.log level text) d d)
    (making_notesOnly h) c

theorem notesOnly_discard (h : Admits P) :
    Action.Traces (Action.NotesOnly P) (discard : Action (Stage GpuDevice) Unit) :=
  traces_discard (fun d level text => Action.notesOnly_singleton (h.log level text) d d)
    (making_notesOnly h)

theorem notesOnly_drop (h : Admits P) :
    Action.Traces (Action.NotesOnly P) (drop : Action (Stage GpuDevice) Unit) :=
  traces_drop (fun d level text => Action.notesOnly_singleton (h.log level text) d d)
    (making_notesOnly h)

theorem notesOnly_render (h : Admits P) :
    Action.Traces (Action.NotesOnly P) (render : Action (Stage GpuDevice) Unit) :=
  traces_render (fun d level text => Action.notesOnly_singleton (h.log level text) d d)
    (notesOnly_upload h) notesOnly_draw

theorem notesOnly_discardPending (h : Admits P) :
    Action.Traces (Action.NotesOnly P) (onDevice discardPending) := by
  refine traces_onDevice (R := Action.NotesOnly P) ?_
  refine Action.traces_bind Action.traces_get fun device => ?_
  refine Action.traces_bind (Action.traces_modify fun _ _ hn => absurd hn List.not_mem_nil)
    fun _ => ?_
  split
  · exact Action.notesOnly_note (h.log _ _)
  · exact Action.traces_pure _

end Stage

/-! ### What an application notes -/

namespace App

variable {α β : Type} {P : Note → Prop}

theorem notesOnly_lend {action : Action (Shown α) β} (h : Action.Traces (Action.NotesOnly P) action)
    (stage : Stage GpuDevice) : Action.Traces (Action.NotesOnly P) (lend stage action) := by
  intro app
  have happ := h ⟨app.scene, stage⟩
  rcases hrun : action.run ⟨app.scene, stage⟩ with ⟨result, shown, notes⟩
  rw [hrun] at happ
  rw [run_lend hrun]
  exact happ

theorem notesOnly_onShown {action : Action (Shown α) β}
    (h : Action.Traces (Action.NotesOnly P) action) (live : Live) :
    Action.Traces (Action.NotesOnly P) (onShown live action) := by
  intro app
  have happ := h ⟨app.scene, live.stage⟩
  rcases hrun : action.run ⟨app.scene, live.stage⟩ with ⟨result, shown, notes⟩
  rw [hrun] at happ
  rw [run_onShown hrun]
  exact happ

theorem notesOnly_shown {action : Action (Stage GpuDevice) β}
    (h : Action.Traces (Action.NotesOnly P) action) :
    Action.Traces (Action.NotesOnly P) (Shown.onStage action : Action (Shown α) β) :=
  Action.traces_part h fun _ _ _ hnotes => hnotes

theorem notesOnly_onStage {action : Action (Stage GpuDevice) Unit}
    (h : Action.Traces (Action.NotesOnly P) action) :
    Action.Traces (Action.NotesOnly P) (onStage action : Action (App α) Unit) := by
  refine Action.traces_bind Action.traces_get fun app => ?_
  cases app.live with
  | none => exact Action.traces_pure _
  | some live => exact notesOnly_onShown (notesOnly_shown h) live

theorem notesOnly_modify (change : App α → App α) :
    Action.Traces (Action.NotesOnly P) (Action.modify change) :=
  Action.traces_modify fun _ _ hn => absurd hn List.not_mem_nil

/-- What holds of all that an application notes outside of its passes: of all that a device notes,
of requests to the platform and of the notes of its scene. -/
structure Admits (scene : Scene α) (P : Note → Prop) : Prop extends GpuDevice.Admits P where
  window : ∀ request, P (.window request)
  scene : ∀ n, scene.Makes n → P n

section Events

variable {scene : Scene α} {options : WindowOptions} {platform : Platform}

theorem notesOnly_ask (h : ∀ request, P (.window request)) (request : WindowRequest) :
    Action.Traces (Action.NotesOnly P) (Action.ask request : Action (App α) Unit) :=
  Action.notesOnly_note (h request)

theorem notesOnly_exit (h : ∀ request, P (.window request)) :
    Action.Traces (Action.NotesOnly P) (exit : Action (App α) Unit) :=
  Action.traces_bind (notesOnly_modify _) fun _ => notesOnly_ask h _

theorem notesOnly_giveBack (h : ∀ request, P (.window request))
    {last : Action (Stage GpuDevice) Unit} (hlast : Action.Traces (Action.NotesOnly P) last) :
    Action.Traces (Action.NotesOnly P) (giveBack last : Action (App α) Unit) := by
  refine Action.traces_bind Action.traces_get fun app => ?_
  cases app.live with
  | none => exact Action.traces_pure _
  | some live =>
      refine Action.traces_bind (notesOnly_onShown (notesOnly_shown hlast) live) fun _ => ?_
      refine Action.traces_bind (notesOnly_modify _) fun _ => ?_
      exact Action.traces_bind (notesOnly_ask h _) fun _ => notesOnly_ask h _

theorem notesOnly_resize (h : ∀ request, P (.window request)) (width height : Nat) :
    Action.Traces (Action.NotesOnly P) (resize width height : Action (App α) Unit) := by
  refine Action.traces_bind Action.traces_get fun app => ?_
  cases app.live with
  | none => exact Action.traces_pure _
  | some live =>
      refine Action.traces_bind (notesOnly_modify _) fun _ => ?_
      exact Action.traces_bind (notesOnly_ask h _) fun _ => notesOnly_ask h _

theorem notesOnly_openStage (h : GpuDevice.Admits P) (hscene : ∀ n, scene.Makes n → P n)
    (config : Config) : Action.Traces (Action.NotesOnly P) (openStage scene config) := by
  refine Action.traces_orClean ?_ (notesOnly_shown (Stage.notesOnly_drop h))
  refine Action.traces_bind (notesOnly_shown (Stage.notesOnly_setup h config)) fun made => ?_
  cases made with
  | error e => exact Action.traces_pure _
  | ok u => exact Action.traces_bind (Scene.notesOnly_start hscene) fun _ => Action.traces_pure _

theorem notesOnly_openSurface (h : Admits scene P) (config : Config) (scale width height : Nat) :
    Action.Traces (Action.NotesOnly P)
      (openSurface scene options platform config scale width height) := by
  refine Action.traces_bind (notesOnly_ask h.window _) fun _ => ?_
  cases platform.adapterFailure with
  | some reason => exact Action.traces_pure _
  | none =>
  refine Action.traces_bind (notesOnly_ask h.window _) fun _ => ?_
  cases platform.deviceFailure with
  | some reason => exact Action.traces_pure _
  | none =>
  cases platform.format with
  | none => exact Action.traces_pure _
  | some format =>
  refine Action.traces_bind (notesOnly_ask h.window _) fun _ => ?_
  have hsheet : Action.Traces (Action.NotesOnly P)
      (Action.part App.scene (fun state app => { app with scene := state }) scene.sheet) :=
    Action.traces_part (Scene.notesOnly_sheet h.scene) fun _ _ _ hnotes => hnotes
  refine Action.traces_bind hsheet fun made => ?_
  cases made with
  | error e => exact Action.traces_pure _
  | ok sheet =>
  have hstage := notesOnly_openStage h.toAdmits h.scene config
  refine Action.traces_bind (notesOnly_lend hstage _) fun opened => ?_
  rcases opened with ⟨e | u, stage⟩
  · exact Action.traces_pure _
  · refine Action.traces_bind (Action.notesOnly_note (h.log _ _)) fun _ => ?_
    exact Action.traces_bind (notesOnly_modify _) fun _ => Action.traces_pure _

theorem notesOnly_openWindow (h : Admits scene P) :
    Action.Traces (Action.NotesOnly P) (openWindow scene options platform) := by
  refine Action.traces_bind Action.traces_get fun app => ?_
  dsimp only
  cases (scene.config app.scene).validate with
  | error e => exact Action.traces_pure _
  | ok u =>
  refine Action.traces_bind (Action.traces_ofExcept _) fun size => ?_
  refine Action.traces_bind (notesOnly_ask h.window _) fun _ => ?_
  cases platform.windowFailure with
  | some reason => exact Action.traces_pure _
  | none =>
  refine Action.traces_orClean ?_ (notesOnly_ask h.window _)
  refine Action.traces_bind (notesOnly_ask h.window _) fun _ => ?_
  cases platform.surfaceFailure with
  | some reason => exact Action.traces_pure _
  | none =>
      exact Action.traces_orClean (notesOnly_openSurface h _ _ _ _) (notesOnly_ask h.window _)

theorem notesOnly_resume (h : Admits scene P) :
    Action.Traces (Action.NotesOnly P) (resume scene options platform) := by
  refine Action.traces_bind Action.traces_get fun app => ?_
  split
  · exact Action.traces_pure _
  refine Action.traces_bind (notesOnly_openWindow h) fun answer => ?_
  cases answer with
  | ok u => exact notesOnly_ask h.window _
  | error e =>
      refine Action.traces_bind (Action.traces_ofExcept _) fun reason => ?_
      refine Action.traces_bind (Action.notesOnly_note (h.log _ _)) fun _ => ?_
      exact Action.traces_bind (notesOnly_modify _) fun _ => notesOnly_exit h.window

theorem notesOnly_deliver (h : Admits scene P) {event : WindowEvent}
    (hevent : ∀ time, event ≠ .redraw time) :
    Action.Traces (Action.NotesOnly P) (deliver scene options platform event) := by
  refine Action.traces_bind (notesOnly_ask h.window _) fun _ => ?_
  cases event with
  | redraw time => exact absurd rfl (hevent time)
  | resumed => exact notesOnly_resume h
  | resized width height => exact notesOnly_resize h.window width height
  | close => exact notesOnly_exit h.window
  | focused | destroyed => exact Action.traces_pure _
  | exiting => exact notesOnly_giveBack h.window (Stage.notesOnly_discard h.toAdmits)

/-- At an event that is not a redraw no part of a pass is noted but by the scene. -/
theorem makes_of_ofPass {event : WindowEvent} (hevent : ∀ time, event ≠ .redraw time) {app : App α}
    {n : Note} (hn : n ∈ ((deliver scene options platform event).run app).notes)
    (hpass : n.ofPass) : scene.Makes n := by
  have hadmits : Admits scene fun n => n.ofPass → scene.Makes n :=
    ⟨⟨nofun, nofun, nofun⟩, nofun, fun _ h _ => h⟩
  exact notesOnly_deliver hadmits hevent app n hn hpass

end Events

end App

/-! ### The pass of a redraw -/

/-- The rectangle of a surface in which a canvas is shown. -/
def SurfaceConfig.viewport (surface : SurfaceConfig) (canvas : Canvas) : Except Fault Viewport := do
  let width ← canvas.width
  let height ← canvas.height
  Viewport.fit surface.width surface.height (Bounded.wrap width) (Bounded.wrap height)

theorem SurfaceConfig.viewport_congr (surface : SurfaceConfig) {canvas canvas' : Canvas}
    (h : canvas.active = canvas'.active) : surface.viewport canvas = surface.viewport canvas' := by
  have hconfig : canvas.config = canvas'.config := by
    rw [Canvas.config, Canvas.config, Canvas.requireActive, Canvas.requireActive, h]
  simp only [viewport, Canvas.width, Canvas.height, hconfig]

theorem GpuDevice.admits_not_ofPass : Admits fun n => n.ofPass = false :=
  ⟨fun _ _ => rfl, fun _ _ _ _ => rfl, fun _ _ => rfl⟩

theorem Stage.run_query_bind {α β : Type} (question : Canvas → Except Fault α)
    (next : α → Action (Stage GpuDevice) β) (stage : Stage GpuDevice) :
    (onCanvas (Action.query question) >>= next).run stage =
      match question stage.canvas with
      | .ok a => (next a).run stage
      | .error fault => ⟨.error fault, stage, []⟩ := by
  rw [Action.run_bind, onCanvas, Action.run_part, Action.run_query]
  cases question stage.canvas <;> rfl

namespace App

variable {α : Type} {options : WindowOptions} {surface : SurfaceConfig}

/-- Of what is noted no part is of a pass but one pass, in the rectangle of the surface in which the
canvas is shown, which is presented. -/
def Shows (options : WindowOptions) (surface : SurfaceConfig) (canvas : Canvas)
    (notes : List Note) : Prop :=
  (∀ n ∈ notes, n.ofPass = false) ∨
    ∃ viewport before draws after, surface.viewport canvas = .ok viewport ∧
      effects notes = before ++ (GpuDevice.passCommands options.clear viewport draws ++
        .window .present :: after) ∧
      ∀ n ∈ before ++ after, n.ofPass = false

/-- What is noted around a pass may be more, as long as it is not of a pass. -/
theorem Shows.append {canvas : Canvas} {notes : List Note} (h : Shows options surface canvas notes)
    {first last : List Note} (hfirst : ∀ n ∈ first, n.ofPass = false)
    (hlast : ∀ n ∈ last, n.ofPass = false) :
    Shows options surface canvas (first ++ (notes ++ last)) := by
  have heffects {more : List Note} (hmore : ∀ n ∈ more, n.ofPass = false) :
      ∀ n ∈ effects more, n.ofPass = false := fun n hn => hmore n (List.mem_of_mem_filter hn)
  rcases h with hnone | ⟨viewport, before, draws, after, hviewport, hnotes, hrest⟩
  · left
    intro n hn
    rcases List.mem_append.1 hn with hn | hn
    · exact hfirst n hn
    · exact (List.mem_append.1 hn).elim (hnone n) (hlast n)
  · refine .inr ⟨viewport, effects first ++ before, draws, after ++ effects last, hviewport, ?_, ?_⟩
    · simp [hnotes]
    · intro n hn
      have hfirst' := heffects hfirst n
      have hlast' := heffects hlast n
      have hrest' := hrest n
      simp only [List.mem_append] at hn hrest'
      tauto

/-- To present a stage is to render it and to encode one pass in the rectangle of the canvas. -/
theorem run_present_of_rendered {stage rendered : Stage GpuDevice} {writes : List Note}
    (h : Stage.render.run stage = ⟨.ok (), rendered, writes⟩) :
    (present options surface).run stage =
      let rest := (do
        let viewport ← Action.ofExcept (surface.viewport rendered.canvas)
        Stage.onDevice (GpuDevice.encode options.clear viewport)
        Action.ask .present : Action (Stage GpuDevice) Unit).run rendered
      ⟨rest.result, rest.state, writes ++ rest.notes⟩ := by
  rw [present, Action.run_bind_of_ok h, Stage.run_query_bind, SurfaceConfig.viewport]
  cases rendered.canvas.width with
  | error fault => rfl
  | ok width =>
      dsimp only
      rw [Stage.run_query_bind]
      cases rendered.canvas.height with
      | error fault => rfl
      | ok height => rfl

/-- To present a stage is to encode one pass in the rectangle in which the canvas is shown, or to
stop. -/
theorem shows_present (options : WindowOptions) (surface : SurfaceConfig)
    (stage : Stage GpuDevice) :
    Shows options surface stage.canvas ((present options surface).run stage).notes := by
  have hwrites := Stage.notesOnly_render GpuDevice.admits_not_ofPass stage
  have hactive := Stage.keepsActive_render stage
  rcases hrender : Stage.render.run stage with ⟨fault | u, rendered, writes⟩
  · rw [hrender] at hwrites
    rw [present, Action.run_bind_of_error hrender]
    exact .inl hwrites
  rw [hrender] at hwrites hactive
  rw [run_present_of_rendered hrender]
  cases hviewport : surface.viewport rendered.canvas with
  | error fault =>
      rw [Action.run_ofExcept_bind]
      dsimp only
      rw [List.append_nil]
      exact .inl hwrites
  | ok viewport =>
      obtain ⟨notes, hencode, hnotes⟩ := GpuDevice.run_encode options.clear viewport rendered.device
      have hencoded : (Stage.onDevice (GpuDevice.encode options.clear viewport)).run rendered =
          ⟨.ok (), ⟨rendered.canvas, { rendered.device with pending := .empty }⟩, notes⟩ := by
        rw [Stage.onDevice, Action.run_part, hencode]
      rw [Action.run_ofExcept_bind]
      dsimp only
      rw [Action.run_bind_of_ok hencoded]
      refine .inr ⟨viewport, effects writes,
        rendered.device.pending.visible.filterMap rendered.device.passDraw, [], ?_, ?_, ?_⟩
      · rw [← hviewport]
        exact surface.viewport_congr hactive.symm
      · rw [effects_append, effects_append, hnotes]
        rfl
      · intro n hn
        rw [List.append_nil] at hn
        exact hwrites n (List.mem_of_mem_filter hn)

/-- To show a frame of an open window is to show at most one pass. -/
theorem shows_showFrame (options : WindowOptions) (surface : SurfaceConfig) {app : App α}
    {live : Live} (hlive : app.live = some live) :
    Shows options surface live.stage.canvas ((showFrame options surface).run app).notes := by
  have hask (request : WindowRequest) :
      Action.Traces (Action.NotesOnly fun n => n.ofPass = false)
        (Action.ask request : Action (App α) Unit) := Action.notesOnly_note rfl
  rw [showFrame, Action.run_bind_of_ok (run_acquireFrame app)]
  cases app.frames.head?.join with
  | some failure =>
      refine .inl fun n hn => ?_
      rcases List.mem_append.1 hn with hn | hn
      · rw [List.mem_singleton.1 hn]
        rfl
      refine (?_ : Action.Traces (Action.NotesOnly fun n => n.ofPass = false) _) _ n hn
      refine Action.traces_bind (Action.notesOnly_note rfl) fun _ => ?_
      refine Action.traces_bind (notesOnly_onStage ?_) fun _ => ?_
      · exact Stage.notesOnly_discardPending GpuDevice.admits_not_ofPass
      · exact Action.traces_bind (hask _) fun _ => hask _
  | none =>
      have hpresent := shows_present options surface live.stage
      rcases hrun : (present options surface).run live.stage with ⟨result, stage, notes⟩
      rw [hrun] at hpresent
      have hlive' : ({ app with frames := app.frames.tail } : App α).live = some live := hlive
      have hframe : ∀ n ∈ [Note.window (.acquireFrame none)], n.ofPass = false := by
        simp [Note.ofPass]
      dsimp only
      rw [Action.run_bind, run_onStage hlive' hrun]
      cases result with
      | error fault =>
          have hnone : ∀ n ∈ ([] : List Note), n.ofPass = false := fun _ hn =>
            absurd hn List.not_mem_nil
          have hshows := hpresent.append hframe hnone
          rwa [List.append_nil] at hshows
      | ok u => exact hpresent.append hframe (hask _ _)

/-- A redraw of an open window shows at most one pass, once the scene was asked for a picture. -/
theorem shows_redraw (scene : Scene α) (options : WindowOptions) {app : App α} {live : Live}
    (hlive : app.live = some live) :
    let asked := (scene.frame app.elapsed).run ⟨app.scene, live.stage⟩
    ∃ rest, ((redraw scene options).run app).notes = asked.notes ++ rest ∧
      Shows options live.surface asked.state.stage.canvas rest := by
  intro asked
  rcases hasked : asked with ⟨fault | go, shown, notes⟩
  · rw [run_redraw_of_fault hlive hasked]
    exact ⟨[], (List.append_nil _).symm, .inl nofun⟩
  rw [run_redraw_of_asked hlive hasked]
  refine ⟨_, rfl, ?_⟩
  cases go with
  | false => exact .inl (by simp [exit, Action.ask, Action.run_bind, Note.ofPass])
  | true =>
      have hopen : (app.asked live shown).live = some ⟨shown.stage, live.surface⟩ := rfl
      exact shows_showFrame options live.surface hopen

end App

end Mosaic
