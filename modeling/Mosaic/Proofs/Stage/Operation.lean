import Mosaic.Proofs.Stage.Run

/-!
# What an operation asks of its device

Only four operations of a canvas go to its device: setting up, discarding, letting go and rendering.
Their runs are given here by the runs of what they ask of the device, for any device; every other
command leaves the device alone (`device_command`).
-/

namespace Mosaic

namespace Stage

variable {δ : Type}

/-! ### Commands that stay on the canvas -/

/-- The device stays as it is. -/
def KeepsDevice (before after : Stage δ) : Prop := after.device = before.device

instance : IsPreorder (Stage δ) KeepsDevice where
  refl _ := rfl
  trans _ _ _ hab hbc := hbc.trans hab

theorem keepsDevice_onCanvas {α : Type} (action : Action Canvas α) :
    Action.Follows KeepsDevice (onCanvas action : Action (Stage δ) α) := fun _ => rfl

theorem run_requireActive {stage : Stage δ} {a : Active} (h : stage.canvas.active = some a) :
    (onCanvas (Action.query Canvas.requireActive)).run stage = ⟨.ok a, stage, []⟩ := by
  rw [onCanvas, Action.run_part, Action.run_query, Canvas.requireActive_of_active h]

/-- The commands that ask something of the device. -/
def Command.AsksDevice : Command → Prop
  | .setup _ | .discard | .render => True
  | _ => False

variable [Device δ]

theorem device_command {c : Command} (h : ¬ c.AsksDevice) :
    Action.Follows KeepsDevice (c.run : Action (Stage δ) Reply) := by
  cases c with
  | setup | discard | render => exact absurd trivial h
  | copyText | setTile | setSprite | clear =>
      exact Action.follows_bind (keepsDevice_onCanvas _) fun _ => Action.follows_pure _
  | updateVertices =>
      exact Action.follows_bind (keepsDevice_onCanvas _) fun _ => Action.follows_query _
  | config | geometry | clamp | tile | grid | occupied | sprite | activeSprites | vertices
  | resources | sheetCount => exact Action.follows_query _

/-! ### Setting up -/

theorem run_setup_of_active {stage : Stage δ} {a : Active} (h : stage.canvas.active = some a)
    (c : Config) : (setup c).run stage = ⟨.ok (.error .alreadyValid), stage, []⟩ := by
  rw [setup, Action.run_get_bind, Canvas.isValid, h]
  rfl

theorem run_setup_of_invalid {stage : Stage δ} (h : stage.canvas.active = none) {c : Config}
    {e : SetupError} (hc : c.validate = .error e) :
    (setup c).run stage = ⟨.ok (.error e), stage, []⟩ := by
  rw [setup, Action.run_get_bind, Canvas.isValid, h, hc]
  rfl

variable {stage : Stage δ} {c : Config} {d : δ} {notes : List Note}

theorem run_setup_of_made {resources : ResourceSet} (h : stage.canvas.active = none)
    (hc : c.validate = .ok ())
    (hrun : (ResourceSet.acquire meshLayout stage.canvas.sheet.image).run stage.device =
      ⟨.ok (.ok resources), d, notes⟩) :
    ∃ line, (setup c).run stage =
      ⟨.ok (.ok ()), ⟨opened c resources stage.canvas, d⟩, notes ++ [.log .debug line]⟩ := by
  have hvalid := Config.validate_eq_ok_iff.1 hc
  refine ⟨setupLine c (c.columns * c.tileWidth) (c.rows * c.tileHeight), ?_⟩
  have hdevice : (onDevice (ResourceSet.acquire meshLayout stage.canvas.sheet.image)).run stage =
      ⟨.ok (.ok resources), { stage with device := d }, notes⟩ := by
    rw [onDevice, Action.run_part, hrun]
  rw [setup, Action.run_get_bind, Canvas.isValid, h, hc]
  simp only [Option.isSome_none, Bool.false_eq_true, if_false]
  rw [Action.run_bind_of_ok hdevice]
  simp only [onCanvas, Action.run_bind, Action.run_part, Action.run_modify,
    Action.run_ofExcept, Config.width_of_valid hvalid, Config.height_of_valid hvalid]
  rfl

theorem run_setup_of_refused {e : DeviceError} (h : stage.canvas.active = none)
    (hc : c.validate = .ok ())
    (hrun : (ResourceSet.acquire meshLayout stage.canvas.sheet.image).run stage.device =
      ⟨.ok (.error e), d, notes⟩) :
    (setup c).run stage = ⟨.ok (.error (.device e)), { stage with device := d }, notes⟩ := by
  have hdevice : (onDevice (ResourceSet.acquire meshLayout stage.canvas.sheet.image)).run stage =
      ⟨.ok (.error e), { stage with device := d }, notes⟩ := by
    rw [onDevice, Action.run_part, hrun]
  rw [setup, Action.run_get_bind, Canvas.isValid, h, hc]
  simp only [Option.isSome_none, Bool.false_eq_true, if_false]
  rw [Action.run_bind_of_ok hdevice]
  simp

theorem run_setup_of_fault {fault : Fault} (h : stage.canvas.active = none)
    (hc : c.validate = .ok ())
    (hrun : (ResourceSet.acquire meshLayout stage.canvas.sheet.image).run stage.device =
      ⟨.error fault, d, notes⟩) :
    (setup c).run stage = ⟨.error fault, { stage with device := d }, notes⟩ := by
  have hdevice : (onDevice (ResourceSet.acquire meshLayout stage.canvas.sheet.image)).run stage =
      ⟨.error fault, { stage with device := d }, notes⟩ := by
    rw [onDevice, Action.run_part, hrun]
  rw [setup, Action.run_get_bind, Canvas.isValid, h, hc]
  simp only [Option.isSome_none, Bool.false_eq_true, if_false]
  rw [Action.run_bind_of_error hdevice]

/-! ### Discarding -/

theorem run_discard_of_unset (h : stage.canvas.active = none) :
    ∃ line, discard.run stage = ⟨.ok (), stage, [.log .debug line]⟩ := by
  refine ⟨"discard on invalid canvas ignored", ?_⟩
  rw [discard, Action.run_get_bind, h]
  rfl

theorem run_discard_of_released {a : Active} (h : stage.canvas.active = some a)
    (hrun : a.resources.release.run stage.device = ⟨.ok (), d, notes⟩) :
    ∃ line, discard.run stage =
      ⟨.ok (), ⟨closed stage.canvas, d⟩, notes ++ [.log .debug line]⟩ := by
  refine ⟨"canvas discarded", ?_⟩
  rw [discard, Action.run_get_bind, h]
  simp only [onCanvas, onDevice, Action.run_bind, Action.run_part, Action.run_modify, hrun]
  rfl

theorem run_discard_of_fault {a : Active} {fault : Fault} (h : stage.canvas.active = some a)
    (hrun : a.resources.release.run stage.device = ⟨.error fault, d, notes⟩) :
    discard.run stage =
      ⟨.error fault, ⟨{ stage.canvas with active := none }, d⟩, notes⟩ := by
  rw [discard, Action.run_get_bind, h]
  simp only [onCanvas, onDevice, Action.run_bind, Action.run_part, Action.run_modify, hrun]
  rfl

theorem run_drop_of_unset (h : stage.canvas.active = none) :
    drop.run stage = ⟨.ok (), stage, []⟩ := by
  rw [drop, Action.run_get_bind, Canvas.isValid, h]
  rfl

theorem run_drop_of_active {a : Active} (h : stage.canvas.active = some a) :
    drop.run stage = discard.run stage := by
  rw [drop, Action.run_get_bind, Canvas.isValid, h]
  rfl

/-! ### Rendering -/

theorem run_render_of_unset (h : stage.canvas.active = none) :
    render.run stage = ⟨.error .canvasUnset, stage, []⟩ := by
  have hactive : (onCanvas (Action.query Canvas.requireActive)).run stage =
      ⟨.error .canvasUnset, stage, []⟩ := by
    rw [onCanvas, Action.run_part, Action.run_query, Canvas.requireActive, h]
  rw [render, Action.run_bind_of_error hactive]

theorem run_render_of_fault {a : Active} {fault : Fault} {canvas : Canvas}
    (h : stage.canvas.active = some a)
    (hrun : Canvas.updateVertices.run stage.canvas = ⟨.error fault, canvas, []⟩) :
    render.run stage = ⟨.error fault, { stage with canvas := canvas }, []⟩ := by
  have hupdate : (onCanvas Canvas.updateVertices).run stage =
      ⟨.error fault, { stage with canvas := canvas }, []⟩ := by
    rw [onCanvas, Action.run_part, hrun]
  rw [render, Action.run_bind_of_silent (run_requireActive h), Action.run_bind_of_error hupdate]

/-- A canvas whose vertices can be listed hands their bytes to its mesh and draws them all. -/
theorem run_render_of_ok {a : Active} {canvas : Canvas} {d' : δ} {more : List Note}
    (h : stage.canvas.active = some a)
    (hrun : Canvas.updateVertices.run stage.canvas = ⟨.ok (), canvas, []⟩)
    (hupload : (Device.upload a.resources.mesh canvas.arena.bytes).run stage.device =
      ⟨.ok (), d, notes⟩)
    (hdraw : (Device.draw ⟨a.resources.drawState, a.resources.texture, canvas.vertexCount⟩).run d =
      ⟨.ok (), d', more⟩) :
    ∃ line, render.run stage = ⟨.ok (), ⟨canvas, d'⟩, .log .trace line :: (notes ++ more)⟩ := by
  have hupdate : (onCanvas Canvas.updateVertices).run stage =
      ⟨.ok (), { stage with canvas := canvas }, []⟩ := by
    rw [onCanvas, Action.run_part, hrun]
  refine ⟨s!"canvas render: {canvas.vertexCount} vertices", ?_⟩
  rw [render, Action.run_bind_of_silent (run_requireActive h),
    Action.run_bind_of_silent hupdate, Action.run_get_bind, Action.run_log_bind]
  simp only [onDevice, Action.run_bind, Action.run_part, hupload, hdraw]

end Stage

end Mosaic
