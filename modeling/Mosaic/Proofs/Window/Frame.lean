import Mosaic.Proofs.Gpu.Screen
import Mosaic.Proofs.Stage.Mirror
import Mosaic.Proofs.Stage.Setup
import Mosaic.Proofs.Window.Scene
import Mosaic.Window.App

/-!
# The frames of a stage

The stage of a window is `Equipped` when its canvas is set up on a device that has what the canvas
holds, and no draw waits. It is so once the canvas was set up (`equipped_of_setup`), and it stays so
while a scene edits the canvas (`Equipped.edits`). A frame of it writes the vertices of the canvas
to the mesh and commands one pass, with one draw of all of them if there are any
(`Equipped.run_present`).
-/

namespace Mosaic

/-- The rectangle of a surface in which a canvas of the given geometry is shown. -/
def SurfaceConfig.fitted (surface : SurfaceConfig) (c : Config) : Except Fault Viewport :=
  Viewport.fit surface.width surface.height (Bounded.wrap (c.columns * c.tileWidth))
    (Bounded.wrap (c.rows * c.tileHeight))

namespace ResourceSet

/-- The draws of a pass that shows a number of vertices; without vertices there are none. -/
def draws (set : ResourceSet) (n : Nat) : List PassDraw :=
  if 0 < n then [⟨set.drawState, set.texture, set.mesh, n⟩] else []

/-- How vertices are written to the mesh; no vertices are not written. -/
def writes (set : ResourceSet) (vertices : List Vertex) : List Note :=
  if Vertex.encode vertices = [] then [] else [.gpu (.writeMesh set.mesh (Vertex.encode vertices))]

theorem effects_writes (set : ResourceSet) (vertices : List Vertex) :
    effects (set.writes vertices) = set.writes vertices := by
  rw [writes]
  split <;> rfl

end ResourceSet

namespace GpuDevice

theorem run_discardPending_of_empty {device : GpuDevice} (h : device.pending = .empty) :
    discardPending.run device = ⟨.ok (), device, []⟩ := by
  have hdevice : { device with pending := .empty } = device := by rw [← h]
  rw [discardPending, Action.run_get_bind, h]
  dsimp only
  rw [Action.run_modify_bind, hdevice]
  rfl

end GpuDevice

namespace Canvas

variable {canvas : Canvas} {a : Active}

theorem width_of_active (h : canvas.active = some a) (hvalid : a.config.Valid) :
    canvas.width = .ok (a.config.columns * a.config.tileWidth) := by
  rw [width, config_of_active h]
  exact Config.width_of_valid hvalid

theorem height_of_active (h : canvas.active = some a) (hvalid : a.config.Valid) :
    canvas.height = .ok (a.config.rows * a.config.tileHeight) := by
  rw [height, config_of_active h]
  exact Config.height_of_valid hvalid

end Canvas

namespace Stage

theorem run_question {α : Type} {stage : Stage GpuDevice} {question : Canvas → Except Fault α}
    {a : α} (h : question stage.canvas = .ok a) :
    (onCanvas (Action.query question)).run stage = ⟨.ok a, stage, []⟩ := by
  rw [onCanvas, Action.run_part, Action.run_query, h]

/-- The canvas is set up, its device has what it holds, and no draw waits. -/
structure Equipped (stage : Stage GpuDevice) : Prop where
  sound : stage.canvas.Sound
  backed : ∃ a r, stage.canvas.active = some a ∧ GpuDevice.Twin .standard stage.device r ∧
    r.Backs a.resources
  pending : stage.device.pending = .empty

/-- A canvas that was set up on a device of its own is equipped. -/
theorem equipped_of_setup {sheet : Sheet} {c : Config}
    (h : ((setup c).run (fresh sheet GpuDevice.fresh)).result = .ok (.ok ())) :
    Equipped ((setup c).run (fresh sheet GpuDevice.fresh)).state := by
  obtain ⟨set, hcalls, -⟩ := setup_of_ok h
  have hserves := serves_setup (fresh sheet GpuDevice.fresh) c
  rw [hcalls] at hserves
  have hfits : sheet.image.Fits .standard := GpuDevice.fits_of_creations hserves
  obtain ⟨-, hcanvas, htwin⟩ := setup_of_linked (GpuDevice.simulates_twin hfits) c
    (s := fresh sheet GpuDevice.fresh) (t := fresh sheet Recorder.fresh)
    ⟨rfl, GpuDevice.twin_fresh _⟩ rfl
  have hc : c.validate = .ok () := by
    cases hc : c.validate with
    | ok u => rfl
    | error e =>
        rw [run_setup_of_invalid rfl hc] at h
        cases h
  obtain ⟨line, hrun⟩ := run_setup_of_room (s := fresh sheet Recorder.fresh) rfl hc rfl
    (show 0 + 4 < Bounded.Width.bits32.count by decide)
  rw [hrun] at hcanvas htwin
  refine ⟨(follows_setup c _).sound (Canvas.sound_fresh sheet),
    ⟨⟨c, Recorder.fresh.nextSet⟩, _, ?_, htwin, Recorder.backs_equipped _ _⟩, ?_⟩
  · rw [hcanvas]
    rfl
  · exact (traces_setup GpuDevice.keeps_log GpuDevice.making_keeps c _).2.1

/-- A scene that only asks and edits the canvas leaves it equipped. -/
theorem Equipped.edits {α : Type} {before after : Shown α} {notes : List Note}
    (h : before.stage.Equipped) (hedits : Shown.Edits before notes after) :
    after.stage.Equipped := by
  obtain ⟨commands, hcommands, hafter⟩ := hedits.stage
  obtain ⟨hdevice, hactive⟩ := silent_after hcommands before.stage
  obtain ⟨a, r, ha, htwin, hbacks⟩ := h.backed
  rw [hafter]
  refine ⟨(keeps_after before.stage _).sound h.sound, ⟨a, r, hactive.trans ha, ?_, hbacks⟩, ?_⟩
  · rw [hdevice]
    exact htwin
  · rw [hdevice]
    exact h.pending

section Present

variable {stage : Stage GpuDevice} {a : Active}

theorem Equipped.backs (h : stage.Equipped) (ha : stage.canvas.active = some a) :
    ∃ r, GpuDevice.Twin .standard stage.device r ∧ r.Backs a.resources := by
  obtain ⟨a', r, ha', htwin, hbacks⟩ := h.backed
  cases ha.symm.trans ha'
  exact ⟨r, htwin, hbacks⟩

theorem Equipped.valid (h : stage.Equipped) (ha : stage.canvas.active = some a) :
    a.config.Valid := (h.sound.fits a ha).valid

/-- To render an equipped stage writes its vertices and queues a draw of all of them. -/
theorem Equipped.run_render (h : stage.Equipped) (ha : stage.canvas.active = some a)
    {vertices : List Vertex} (hlayout : stage.canvas.layout a.config = .ok vertices) :
    ∃ arena line, render.run stage =
      ⟨.ok (), ⟨{ stage.canvas with arena := arena }, { stage.device with
        pending := stage.device.pending.push
          ⟨a.resources.drawState, a.resources.texture, vertices.length⟩ }⟩,
        .log .trace line :: a.resources.writes vertices⟩ := by
  obtain ⟨r, htwin, hbacks⟩ := h.backs ha
  obtain ⟨arena, line, hrun⟩ := run_render_of_layout ha h.sound hlayout
    (GpuDevice.run_upload_of_fits (htwin.mesh hbacks)
      (Canvas.length_encode_of_layout ha h.sound hlayout)) rfl
  rw [List.append_nil] at hrun
  exact ⟨arena, line, hrun⟩

/-- A frame of a stage that has a layout: once it is rendered, what was queued is encoded in the part
of the surface that shows the canvas. -/
theorem Equipped.run_present_of_layout (h : stage.Equipped) (ha : stage.canvas.active = some a)
    {vertices : List Vertex} (hlayout : stage.canvas.layout a.config = .ok vertices)
    (options : WindowOptions) (surface : SurfaceConfig) :
    ∃ arena line, (App.present options surface).run stage =
      let rest := (do
        let viewport ← Action.ofExcept (surface.fitted a.config)
        onDevice (GpuDevice.encode options.clear viewport)
        Action.ask .present : Action (Stage GpuDevice) Unit).run
          ⟨{ stage.canvas with arena := arena }, { stage.device with
            pending := stage.device.pending.push
              ⟨a.resources.drawState, a.resources.texture, vertices.length⟩ }⟩
      ⟨rest.result, rest.state, .log .trace line :: (a.resources.writes vertices ++ rest.notes)⟩ := by
  obtain ⟨arena, line, hrender⟩ := h.run_render ha hlayout
  let queued : Stage GpuDevice := ⟨{ stage.canvas with arena := arena }, { stage.device with
    pending := stage.device.pending.push
      ⟨a.resources.drawState, a.resources.texture, vertices.length⟩ }⟩
  have hactive : queued.canvas.active = some a := ha
  have hwidth := run_question (Canvas.width_of_active hactive (h.valid ha))
  have hheight := run_question (Canvas.height_of_active hactive (h.valid ha))
  refine ⟨arena, line, ?_⟩
  rw [App.present, Action.run_bind_of_ok hrender, Action.run_bind_of_silent hwidth,
    Action.run_bind_of_silent hheight, ← SurfaceConfig.fitted]
  rfl

/-- A frame of an equipped stage that has a layout and fits the surface: its vertices are written,
one pass draws all of them at once, if there are any, and the frame is presented. -/
theorem Equipped.run_present (h : stage.Equipped) (ha : stage.canvas.active = some a)
    {vertices : List Vertex} (hlayout : stage.canvas.layout a.config = .ok vertices)
    {surface : SurfaceConfig} {viewport : Viewport}
    (hfitted : surface.fitted a.config = .ok viewport) (options : WindowOptions) :
    ∃ arena notes, (App.present options surface).run stage =
        ⟨.ok (), ⟨{ stage.canvas with arena := arena }, stage.device⟩, notes⟩ ∧
      effects notes = a.resources.writes vertices ++
        (GpuDevice.passCommands options.clear viewport (a.resources.draws vertices.length) ++
          [.window .present]) := by
  obtain ⟨r, htwin, hbacks⟩ := h.backs ha
  obtain ⟨arena, line, hrun⟩ := h.run_present_of_layout ha hlayout options surface
  have hpass := htwin.pass hbacks h.pending (Canvas.length_lt_of_layout ha h.sound hlayout)
  let queued : Stage GpuDevice := ⟨{ stage.canvas with arena := arena }, { stage.device with
    pending := stage.device.pending.push
      ⟨a.resources.drawState, a.resources.texture, vertices.length⟩ }⟩
  obtain ⟨notes, hencode, hnotes⟩ := GpuDevice.run_encode options.clear viewport queued.device
  have hdevice : { queued.device with pending := .empty } = stage.device := by rw [← h.pending]
  have hencoded : (onDevice (GpuDevice.encode options.clear viewport)).run queued =
      ⟨.ok (), ⟨queued.canvas, stage.device⟩, notes⟩ := by
    rw [onDevice, Action.run_part, hencode, hdevice]
  refine ⟨arena, .log .trace line :: (a.resources.writes vertices ++
    (notes ++ [.window .present])), ?_, ?_⟩
  · rw [hrun, hfitted, Action.run_ofExcept_bind]
    dsimp only
    rw [Action.run_bind_of_ok hencoded]
    rfl
  · rw [effects_log, effects_append, ResourceSet.effects_writes, effects_append, hnotes]
    exact congrArg (fun draws => a.resources.writes vertices ++
      (GpuDevice.passCommands options.clear viewport draws ++ [.window .present])) hpass

/-- A canvas without a layout stops the frame, and nothing is done outside. -/
theorem Equipped.run_present_of_fault (h : stage.Equipped) (ha : stage.canvas.active = some a)
    {fault : Fault} (hlayout : stage.canvas.layout a.config = .error fault)
    (options : WindowOptions) (surface : SurfaceConfig) :
    ∃ arena, (App.present options surface).run stage =
      ⟨.error fault, ⟨{ stage.canvas with arena := arena }, stage.device⟩, []⟩ := by
  obtain ⟨arena, hrender⟩ := run_render_of_layout_fault ha h.sound hlayout
  exact ⟨arena, by rw [App.present, Action.run_bind_of_error hrender]⟩

theorem follows_present (options : WindowOptions) (surface : SurfaceConfig) :
    Action.Follows Keeps (App.present options surface) := by
  refine Action.follows_bind follows_render fun _ => ?_
  refine Action.follows_bind (follows_onCanvas (Action.follows_query _)) fun width => ?_
  refine Action.follows_bind (follows_onCanvas (Action.follows_query _)) fun height => ?_
  refine Action.follows_bind (Action.follows_ofExcept _) fun viewport => ?_
  exact Action.follows_bind (follows_onDevice _) fun _ => fun stage => refl_of Keeps stage

/-- A stage that is presented without a fault stays equipped. -/
theorem Equipped.present (h : stage.Equipped) (options : WindowOptions) (surface : SurfaceConfig)
    (hok : ((App.present options surface).run stage).result = .ok ()) :
    ((App.present options surface).run stage).state.Equipped := by
  have hsound := (follows_present options surface stage).sound h.sound
  obtain ⟨a, r, ha, hbacked⟩ := h.backed
  cases hlayout : stage.canvas.layout a.config with
  | error fault =>
      obtain ⟨arena, hrun⟩ := h.run_present_of_fault ha hlayout options surface
      rw [hrun] at hok
      cases hok
  | ok vertices =>
  cases hfitted : surface.fitted a.config with
  | error fault =>
      obtain ⟨arena, line, hrun⟩ := h.run_present_of_layout ha hlayout options surface
      rw [hrun, hfitted] at hok
      cases hok
  | ok viewport =>
      obtain ⟨arena, notes, hrun, -⟩ := h.run_present ha hlayout hfitted options
      rw [hrun] at hsound ⊢
      exact ⟨hsound, ⟨a, r, ha, hbacked⟩, h.pending⟩

end Present

end Stage

/-! ### Running on the stage of a window -/

namespace App

variable {α β : Type} {app : App α} {live : Live}

theorem run_lend {stage : Stage GpuDevice} {action : Action (Shown α) β} {result : Except Fault β}
    {shown : Shown α} {notes : List Note}
    (h : action.run ⟨app.scene, stage⟩ = ⟨result, shown, notes⟩) :
    (lend stage action).run app =
      ⟨(fun b => (b, shown.stage)) <$> result, { app with scene := shown.scene }, notes⟩ := by
  rw [Action.run] at h
  rw [Action.run, lend, h]
  cases result <;> rfl

theorem run_onShown {action : Action (Shown α) β} {result : Except Fault β} {shown : Shown α}
    {notes : List Note} (h : action.run ⟨app.scene, live.stage⟩ = ⟨result, shown, notes⟩) :
    (onShown live action).run app = ⟨result,
      { app with scene := shown.scene, live := some { live with stage := shown.stage } },
      notes⟩ := by
  rw [Action.run] at h
  rw [Action.run, onShown, h]

theorem run_onStage {action : Action (Stage GpuDevice) Unit} (hlive : app.live = some live)
    {result : Except Fault Unit} {stage : Stage GpuDevice} {notes : List Note}
    (h : action.run live.stage = ⟨result, stage, notes⟩) :
    (onStage action).run app =
      ⟨result, { app with live := some { live with stage := stage } }, notes⟩ := by
  have hshown : (Shown.onStage action).run (⟨app.scene, live.stage⟩ : Shown α) =
      ⟨result, ⟨app.scene, stage⟩, notes⟩ := by
    rw [Shown.onStage, Action.run_part, h]
  rw [onStage, Action.run_get_bind, hlive]
  exact run_onShown hshown

end App

end Mosaic
