import Mosaic.Proofs.Action.Answer
import Mosaic.Proofs.Gpu.Processor

/-!
# What a pass shows

`GpuDevice.passDraw` is the draw that a queued call becomes, if everything that it names is alive.
To encode a queue is to command one pass of just these draws of the calls with vertices, in order
(`run_encode`). A processor that hears of a pass has shown its draws and nothing of a pass that was
begun before (`Processor.hear_pass`).
-/

namespace Mosaic

/-- The draws that show something. -/
def DrawRecord.visible (record : DrawRecord) : Bool := 0 < record.call.vertices

namespace Processor

/-- The processor with more draws in its pass. -/
def queue (p : Processor) (draws : List PassDraw) : Processor := { p with pass := p.pass ++ draws }

theorem queue_queue (p : Processor) (first second : List PassDraw) :
    (p.queue first).queue second = p.queue (first ++ second) := by
  rw [queue, queue, queue, List.append_assoc]

theorem queue_nil (p : Processor) : p.queue [] = p := by
  rw [queue, List.append_nil]

/-- The processor after a pass of draws. -/
def showing (p : Processor) (draws : List PassDraw) : Processor :=
  { p with pass := [], shown := p.shown ++ draws.map p.read }

/-- A processor that is handed the bytes of some vertices, if there are any, and draws them shows
just these. -/
theorem shown_of_written (p : Processor) (drawState : DrawStateId) (texture : TextureId)
    (mesh : MeshId) (vertices : List Vertex) :
    ((p.hear (if Vertex.encode vertices = [] then []
        else [.gpu (.writeMesh mesh (Vertex.encode vertices))])).showing
      (if 0 < vertices.length then [⟨drawState, texture, mesh, vertices.length⟩] else [])).shown =
      p.shown ++ [⟨⟨drawState, texture, vertices.length⟩, vertices⟩].filter DrawRecord.visible := by
  cases vertices with
  | nil => rfl
  | cons v rest =>
      have hread := p.read_obey_writeMesh drawState texture mesh (v :: rest)
      have hpos : 0 < (v :: rest).length := Nat.succ_pos _
      have hne : Vertex.encode (v :: rest) ≠ [] := List.ne_nil_of_length_pos (by
        rw [Vertex.length_encode]
        exact Nat.mul_pos (by decide) hpos)
      rw [if_neg hne, if_pos hpos, hear_gpu, hear_nil, showing, List.map_singleton,
        hread, List.filter_cons_of_pos (by simp [DrawRecord.visible])]
      rfl

end Processor

/-- Of one call that waits, none is visible or just this. -/
theorem DrawQueue.visible_push_empty (call : DrawCall) :
    (empty.push call).visible = if 0 < call.vertices then [call] else [] := by
  rw [visible, push, empty, List.nil_append, List.filter_singleton]
  by_cases hpos : 0 < call.vertices <;> simp [hpos]

namespace GpuDevice

/-- The draw of a pass that a queued call becomes, if what it names is alive. -/
def passDraw (device : GpuDevice) (call : DrawCall) : Option PassDraw :=
  match device.drawStates.get? call.drawState with
  | none => none
  | some mesh =>
    if device.textures.contains call.texture && device.meshes.contains mesh then
      some ⟨call.drawState, call.texture, mesh, call.vertices % Bounded.Width.bits32.count⟩
    else none

/-- The commands of draws. -/
def drawCommands (draws : List PassDraw) : List Note := draws.map fun draw => .gpu (.draw draw)

/-- The commands of a pass. -/
def passCommands (clear : Colour) (viewport : Viewport) (draws : List PassDraw) : List Note :=
  .gpu (.beginPass clear) :: .gpu viewport.command :: (drawCommands draws ++ [.gpu .submit])

theorem run_encodeCall (call : DrawCall) (device : GpuDevice) :
    ∃ notes, (encodeCall call).run device = ⟨.ok (), device, notes⟩ ∧
      effects notes = drawCommands (device.passDraw call).toList := by
  rw [encodeCall, Action.run_get_bind, passDraw]
  dsimp only
  cases device.drawStates.get? call.drawState with
  | none => exact ⟨_, rfl, rfl⟩
  | some mesh =>
  dsimp only
  cases device.textures.contains call.texture with
  | false => exact ⟨_, rfl, rfl⟩
  | true =>
  cases device.meshes.contains mesh with
  | false => exact ⟨_, rfl, rfl⟩
  | true => exact ⟨_, rfl, rfl⟩

theorem run_each_encodeCall (calls : List DrawCall) (device : GpuDevice) :
    ∃ notes, (Action.each encodeCall calls).run device = ⟨.ok (), device, notes⟩ ∧
      effects notes = drawCommands (calls.filterMap device.passDraw) := by
  induction calls with
  | nil => exact ⟨[], rfl, rfl⟩
  | cons call calls ih =>
      obtain ⟨notes, hrun, heffects⟩ := run_encodeCall call device
      obtain ⟨more, hrest, hmore⟩ := ih
      refine ⟨notes ++ more, ?_, ?_⟩
      · rw [Action.each_cons, Action.run_bind_of_ok hrun, hrest]
      · rw [effects_append, heffects, hmore, List.filterMap_cons]
        cases device.passDraw call <;> rfl

/-- A queue is encoded into one pass, and nothing waits afterwards. -/
theorem run_encode (clear : Colour) (viewport : Viewport) (device : GpuDevice) :
    ∃ notes, (encode clear viewport).run device =
        ⟨.ok (), { device with pending := .empty }, notes⟩ ∧
      effects notes =
        passCommands clear viewport (device.pending.visible.filterMap device.passDraw) := by
  obtain ⟨notes, hrun, heffects⟩ := run_each_encodeCall device.pending.visible device
  refine ⟨.gpu (.beginPass clear) :: .gpu viewport.command :: (notes ++ [.gpu .submit]), ?_, ?_⟩
  · simp only [encode, Action.command, Action.run_bind, Action.run_note, Action.run_get, hrun,
      Action.run_modify]
    rfl
  · rw [effects_gpu, effects_gpu, effects_append, heffects]
    rfl

end GpuDevice

namespace Processor

/-- A processor hears the commands alone. -/
theorem hear_effects (p : Processor) (notes : List Note) :
    p.hear (effects notes) = p.hear notes := by
  induction notes generalizing p with
  | nil => rfl
  | cons n rest ih =>
      cases n with
      | gpu command => exact ih (p.obey command)
      | log | window | remark => exact ih p

theorem hear_drawCommands (p : Processor) (draws : List PassDraw) :
    p.hear (GpuDevice.drawCommands draws) = p.queue draws := by
  induction draws generalizing p with
  | nil => exact p.queue_nil.symm
  | cons draw draws ih => exact (ih (p.queue [draw])).trans (p.queue_queue [draw] draws)

theorem hear_pass (p : Processor) {notes : List Note} {clear : Colour} {viewport : Viewport}
    {draws : List PassDraw} (h : effects notes = GpuDevice.passCommands clear viewport draws) :
    p.hear notes = p.showing draws := by
  rw [← hear_effects, h, GpuDevice.passCommands, hear_gpu, hear_gpu, hear_append,
    hear_drawCommands]
  rfl

end Processor

namespace GpuDevice

/-- Bytes that fit a mesh are written to it, if there are any. -/
theorem run_upload_of_fits {device : GpuDevice} {mesh : MeshId} {capacity : Nat}
    (h : device.meshes.get? mesh = some capacity) {bytes : List UInt8}
    (hle : bytes.length ≤ capacity) :
    (Device.upload mesh bytes).run device =
      ⟨.ok (), device, if bytes = [] then [] else [.gpu (.writeMesh mesh bytes)]⟩ := by
  change (upload mesh bytes).run device = _
  rw [upload, Action.run_get_bind, h]
  dsimp only
  cases bytes with
  | nil => rfl
  | cons byte rest =>
      rw [List.length_cons] at hle ⊢
      rw [if_neg (Nat.succ_ne_zero _), if_neg (Nat.not_lt.2 hle), if_neg (List.cons_ne_nil _ _)]
      rfl

end GpuDevice

end Mosaic
