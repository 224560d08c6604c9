import Mosaic.Device.Recorder
import Mosaic.Gpu.Device
import Mosaic.Proofs.Stage.Holdings
import Mosaic.Proofs.Stage.Simulation

/-!
# The queueing device and the recording device side by side

A queueing device and a recorder are twins when they have given out the same numbers and have the
same resources. Every request for nothing larger than the graphics processor allows comes to the
same answer on twins and leaves twins (`matches_run`), so all that a canvas asks of its device does,
as long as its sheet fits (`simulates_twin`). What they draw is not compared here.
-/

namespace Mosaic

/-- The image is not larger than a graphics processor allows. -/
def Image.Fits (image : Image) (limits : GpuLimits) : Prop :=
  image.width ≤ limits.textureSide ∧ image.height ≤ limits.textureSide

/-- The request is not for a mesh or a texture that is larger than a graphics processor allows. -/
def DeviceRequest.Within (limits : GpuLimits) : DeviceRequest → Prop
  | .createMesh layout => ∃ size, layout.byteSize = .ok size ∧ size ≤ limits.bufferSize
  | .createTexture image => image.Fits limits
  | _ => True

namespace GpuDevice

/-- The device of a processor with the given limits and the recorder have given out the same numbers
and have the same resources. -/
structure Twin (limits : GpuLimits) (device : GpuDevice) (r : Recorder) : Prop where
  limits : device.limits = limits
  lastId : device.lastId = r.lastId
  meshes : ∀ m, device.meshes.get? m = (r.meshes.get? m).map RecordedMesh.capacity
  programs : ∀ p, device.programs.get? p = r.programs.get? p
  drawStates : ∀ d, device.drawStates.get? d = r.drawStates.get? d
  textures : ∀ t, device.textures.contains t = r.textures.contains t
  failing : r.failing = none

variable {limits : GpuLimits}

theorem twin_fresh (limits : GpuLimits) : Twin limits { GpuDevice.fresh with limits } .fresh where
  limits := rfl
  lastId := rfl
  meshes _ := rfl
  programs _ := rfl
  drawStates _ := rfl
  textures _ := rfl
  failing := rfl

theorem Twin.alive {device : GpuDevice} {r : Recorder} (h : Twin limits device r) (ρ : Resource) :
    device.alive ρ = r.alive ρ := by
  cases ρ with
  | mesh m => simp [GpuDevice.alive, Recorder.alive, Table.contains, h.meshes]
  | program p => simp [GpuDevice.alive, Recorder.alive, Table.contains, h.programs]
  | drawState d => simp [GpuDevice.alive, Recorder.alive, Table.contains, h.drawStates]
  | texture t => exact h.textures t

theorem Twin.remove {device : GpuDevice} {r : Recorder} (h : Twin limits device r) (ρ : Resource) :
    Twin limits (device.remove ρ) (r.remove ρ) := by
  cases ρ with
  | mesh id =>
      refine { h with meshes := fun m => ?_ }
      simp only [GpuDevice.remove, Recorder.remove, Table.get?_erase, h.meshes]
      split <;> rfl
  | program id =>
      refine { h with programs := fun p => ?_ }
      simp only [GpuDevice.remove, Recorder.remove, Table.get?_erase, h.programs]
  | drawState id =>
      refine { h with drawStates := fun d => ?_ }
      simp only [GpuDevice.remove, Recorder.remove, Table.get?_erase, h.drawStates]
  | texture id =>
      refine { h with textures := fun t => ?_ }
      have ht := h.textures t
      simp only [GpuDevice.remove, Recorder.remove, Table.contains, Table.get?_erase] at ht ⊢
      split
      · rfl
      · exact ht

/-- Twins give out the same number. -/
theorem matches_allocate {α : Type} {kind : ResourceKind} {next : Nat → Action GpuDevice α}
    {next' : Except DeviceError Nat → Action Recorder α}
    (h : ∀ id, Action.Matches (Twin limits) (next id) (next' (.ok id))) :
    Action.Matches (Twin limits) (allocate >>= next) (Recorder.allocate kind >>= next') := by
  intro device r htwin
  cases hadd : Bounded.add .bits32 r.lastId 1 with
  | error fault =>
      have hdevice : allocate.run device = ⟨.error fault, device, []⟩ := by
        rw [allocate, Action.run_get_bind, Action.run_ofExcept_bind, htwin.lastId, hadd]
      have hrecorder : (Recorder.allocate kind).run r = ⟨.error fault, r, []⟩ := by
        simp [Recorder.allocate, Action.run, htwin.failing, hadd]
      rw [Action.run_bind_of_error hdevice, Action.run_bind_of_error hrecorder]
      exact ⟨rfl, htwin⟩
  | ok id =>
      have hdevice : allocate.run device = ⟨.ok id, { device with lastId := id }, []⟩ := by
        rw [allocate, Action.run_get_bind, Action.run_ofExcept_bind, htwin.lastId, hadd]
        rfl
      have hrecorder : (Recorder.allocate kind).run r =
          ⟨.ok (.ok id), { r with lastId := id }, []⟩ := by
        simp [Recorder.allocate, Action.run, htwin.failing, hadd]
      rw [Action.run_bind_of_silent hdevice, Action.run_bind_of_silent hrecorder]
      exact h id _ _ { htwin with lastId := rfl }

theorem matches_createMesh {layout : MeshLayout} {size : Nat} (hsize : layout.byteSize = .ok size)
    (hle : size ≤ limits.bufferSize) :
    Action.Matches (Twin limits) (createMesh layout) (Recorder.createMesh layout) := by
  intro device r htwin
  rw [createMesh, Recorder.createMesh, Action.run_ofExcept_bind, hsize]
  dsimp only
  rw [Action.run_get_bind, htwin.limits, if_neg (Nat.not_lt.2 hle)]
  refine matches_allocate (fun id => ?_) device r htwin
  refine Action.matches_note_bind ?_
  refine Action.matches_bind (Action.matches_modify fun device r htwin => ?_) fun _ =>
    Action.matches_pure _
  refine { htwin with meshes := fun m => ?_ }
  simp only [Table.get?_insert, htwin.meshes]
  split <;> rfl

theorem matches_createProgram :
    Action.Matches (Twin limits) createProgram Recorder.createProgram := by
  refine matches_allocate fun id => Action.matches_note_bind ?_
  refine Action.matches_bind (Action.matches_modify fun device r htwin => ?_) fun _ =>
    Action.matches_pure _
  refine { htwin with programs := fun p => ?_ }
  simp only [Table.get?_insert, htwin.programs]

theorem matches_createDrawState (mesh : MeshId) (program : ProgramId) :
    Action.Matches (Twin limits) (createDrawState mesh program)
      (Recorder.createDrawState mesh program) := by
  refine Action.matches_get_bind fun device r htwin => ?_
  have hmesh : device.meshes.contains mesh = r.meshes.contains mesh := htwin.alive (.mesh mesh)
  have hprogram : device.programs.contains program = r.programs.contains program :=
    htwin.alive (.program program)
  rw [hmesh, hprogram]
  split
  · exact Action.matches_pure _
  split
  · exact Action.matches_pure _
  refine matches_allocate fun id => Action.matches_note_bind ?_
  refine Action.matches_bind (Action.matches_modify fun device r htwin => ?_) fun _ =>
    Action.matches_pure _
  refine { htwin with drawStates := fun d => ?_ }
  simp only [Table.get?_insert, htwin.drawStates]

theorem matches_createTexture {image : Image} (h : image.Fits limits) :
    Action.Matches (Twin limits) (createTexture image) (Recorder.createTexture image) := by
  intro device r htwin
  have hfits : ¬ (device.limits.textureSide < image.width ∨
      device.limits.textureSide < image.height) := by
    rw [htwin.limits, not_or]
    exact ⟨Nat.not_lt.2 h.1, Nat.not_lt.2 h.2⟩
  rw [createTexture, Action.run_get_bind]
  dsimp only
  rw [if_neg hfits]
  refine Action.matches_note_bind (matches_allocate fun id => ?_) device r htwin
  refine Action.matches_note_bind ?_
  refine Action.matches_bind (Action.matches_modify fun device r htwin => ?_) fun _ =>
    Action.matches_pure _
  refine { htwin with textures := fun t => ?_ }
  have ht := htwin.textures t
  simp only [Table.contains, Table.get?_insert] at ht ⊢
  split
  · rfl
  · exact ht

theorem matches_destroy (ρ : Resource) :
    Action.Matches (Twin limits) (destroy ρ) (Recorder.destroy ρ) := by
  refine Action.matches_get_bind fun device r htwin => ?_
  rw [htwin.alive ρ]
  dsimp only
  split
  · intro device r htwin
    exact ⟨rfl, htwin.remove ρ⟩
  · exact Action.matches_note _ _

theorem matches_upload (mesh : MeshId) (bytes : List UInt8) :
    Action.Matches (Twin limits) (upload mesh bytes) (Recorder.upload mesh bytes) := by
  intro device r htwin
  rw [upload, Recorder.upload, Action.run_get_bind, Action.run_get_bind, htwin.meshes]
  cases hmesh : r.meshes.get? mesh with
  | none => exact ⟨rfl, htwin⟩
  | some stored =>
  have hstored : Twin limits device { r with
      meshes := r.meshes.insert mesh ⟨stored.capacity, Vertex.decode bytes⟩ } := by
    refine { htwin with meshes := fun m => ?_ }
    rw [Table.get?_insert, htwin.meshes]
    split
    · rename_i hm
      rw [hm, hmesh]
      rfl
    · rfl
  simp only [Option.map_some]
  by_cases hlt : stored.capacity < bytes.length
  · have hne : bytes.length ≠ 0 := Nat.ne_of_gt (Nat.lt_of_le_of_lt (Nat.zero_le _) hlt)
    simp only [hlt, hne, if_true, if_false]
    exact ⟨rfl, htwin⟩
  · simp only [hlt, if_false]
    split
    · exact ⟨rfl, hstored⟩
    · exact ⟨rfl, hstored⟩

theorem matches_draw (call : DrawCall) :
    Action.Matches (Twin limits) (draw call) (Recorder.draw call) := by
  intro device r htwin
  have hqueued : Twin limits { device with pending := device.pending.push call } r := { htwin with }
  rw [Recorder.draw, Action.run_get_bind]
  cases r.drawStates.get? call.drawState with
  | none => exact ⟨rfl, hqueued⟩
  | some mesh =>
      dsimp only
      split
      · exact ⟨rfl, { hqueued with }⟩
      · exact ⟨rfl, hqueued⟩

/-- On twins every request within the limits comes to the same. -/
theorem matches_run {request : DeviceRequest} (h : request.Within limits) :
    Action.Matches (Twin limits) (request.run (δ := GpuDevice)) (request.run (δ := Recorder)) := by
  cases request with
  | createMesh layout =>
      obtain ⟨size, hsize, hle⟩ := h
      exact Action.matches_map (matches_createMesh hsize hle) _
  | createProgram => exact Action.matches_map matches_createProgram _
  | createDrawState mesh program =>
      exact Action.matches_map (matches_createDrawState mesh program) _
  | createTexture image => exact Action.matches_map (matches_createTexture h) _
  | destroy ρ => exact Action.matches_map (matches_destroy ρ) _
  | upload mesh bytes => exact Action.matches_map (matches_upload mesh bytes) _
  | draw call => exact Action.matches_map (matches_draw call) _

/-- On twins everything that a canvas asks of its device comes to the same. -/
theorem simulates_twin {image : Image} (h : image.Fits .standard) :
    Device.Simulates (Twin .standard) Stage.meshLayout image where
  createMesh := matches_createMesh Stage.byteSize_meshLayout (by decide)
  createProgram := matches_createProgram
  createDrawState := matches_createDrawState
  createTexture := matches_createTexture h
  destroy := matches_destroy
  upload := matches_upload
  draw := matches_draw

end GpuDevice

end Mosaic
