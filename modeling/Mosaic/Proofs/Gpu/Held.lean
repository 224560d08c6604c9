import Mosaic.Gpu.Device
import Mosaic.Proofs.Device.Request
import Mosaic.Proofs.Table

/-!
# What the queueing device holds

`GpuDevice.held` reads the four tables of the queueing device as one: what is held of a resource, if
it is alive. `GpuDevice.Does` lists what a call can come to. A creation that succeeds takes the next
number, a destruction takes one resource away, a draw is queued, and every other call leaves the
device as it is.
-/

namespace Mosaic

/-- What the queueing device holds of a resource. -/
inductive Held where
  | mesh (size : Nat)
  | program
  | drawState (mesh : MeshId)
  | texture

/-- The resource of which it is held, if that has the given number. -/
def Held.resource (number : Nat) : Held → Resource
  | .mesh _ => .mesh ⟨number⟩
  | .program => .program ⟨number⟩
  | .drawState _ => .drawState ⟨number⟩
  | .texture => .texture ⟨number⟩

/-- What is held of a resource that the request made. -/
def DeviceRequest.Holds : DeviceRequest → Held → Prop
  | .createMesh layout, .mesh size => layout.byteSize = .ok size
  | .createProgram, .program => True
  | .createDrawState mesh _, .drawState bound => bound = mesh
  | .createTexture _, .texture => True
  | _, _ => False

namespace GpuDevice

/-! ### Four tables as one -/

/-- What is held of a resource. -/
def held (device : GpuDevice) : Resource → Option Held
  | .mesh id => (device.meshes.get? id).map .mesh
  | .program id => (device.programs.get? id).map fun _ => .program
  | .drawState id => (device.drawStates.get? id).map .drawState
  | .texture id => (device.textures.get? id).map fun _ => .texture

theorem isSome_held (device : GpuDevice) (ρ : Resource) :
    (device.held ρ).isSome = device.alive ρ := by
  cases ρ <;> simp [held, alive, Table.contains]

/-- The device with one more resource, of which `h` is held. -/
def gain (device : GpuDevice) : Held → GpuDevice
  | .mesh size =>
    { device with
      lastId := device.lastId + 1, meshes := device.meshes.insert ⟨device.lastId + 1⟩ size }
  | .program =>
    { device with
      lastId := device.lastId + 1, programs := device.programs.insert ⟨device.lastId + 1⟩ () }
  | .drawState mesh =>
    { device with
      lastId := device.lastId + 1
      drawStates := device.drawStates.insert ⟨device.lastId + 1⟩ mesh }
  | .texture =>
    { device with
      lastId := device.lastId + 1, textures := device.textures.insert ⟨device.lastId + 1⟩ () }

theorem held_gain (device : GpuDevice) (h : Held) (ρ : Resource) :
    (device.gain h).held ρ =
      if ρ = h.resource (device.lastId + 1) then some h else device.held ρ := by
  cases h <;> cases ρ <;> simp only [gain, held, Held.resource, Table.get?_insert] <;> grind

theorem held_remove (device : GpuDevice) (ρ σ : Resource) :
    (device.remove ρ).held σ = if σ = ρ then none else device.held σ := by
  cases ρ <;> cases σ <;> simp only [remove, held, Table.get?_erase] <;> grind

theorem pending_gain (device : GpuDevice) (h : Held) :
    (device.gain h).pending = device.pending := by
  cases h <;> rfl

theorem pending_remove (device : GpuDevice) (ρ : Resource) :
    (device.remove ρ).pending = device.pending := by cases ρ <;> rfl

/-! ### What a call comes to -/

/-- What a call to the queueing device comes to, its answer included. -/
inductive Does (device : GpuDevice) : DeviceCall → GpuDevice → Prop
  | made (request : DeviceRequest) (held : Held) (h : request.Holds held) :
      Does device (.making request (held.resource (device.lastId + 1))) (device.gain held)
  | refused (request : DeviceRequest) (e : DeviceError) (h : request.isCreation) :
      Does device (.refusing request e) device
  /-- No number is left, or the size of a mesh is too large to be computed. -/
  | stopped (request : DeviceRequest) (fault : Fault) (h : request.isCreation) :
      Does device ⟨request, .error fault⟩ device
  | destroyed (ρ : Resource) : Does device (.doing (.destroy ρ)) (device.remove ρ)
  | queued (call : DrawCall) :
      Does device (.doing (.draw call)) { device with pending := device.pending.push call }
  /-- A write to a mesh, or a warning. -/
  | ignored (request : DeviceRequest) (h : request.isCreation = false)
      (hdead : ∀ ρ, request = .destroy ρ → device.alive ρ = false)
      (hdraw : ∀ call, request ≠ .draw call) : Does device (.doing request) device

theorem run_allocate_cases (device : GpuDevice) :
    (∃ fault, allocate.run device = ⟨.error fault, device, []⟩) ∨
      allocate.run device =
        ⟨.ok (device.lastId + 1), { device with lastId := device.lastId + 1 }, []⟩ := by
  by_cases hroom : device.lastId + 1 < Bounded.Width.bits32.count
  · right
    rw [allocate, Action.run_get_bind, Action.run_ofExcept_bind, Bounded.add,
      Bounded.unsigned_of_lt hroom]
    rfl
  · left
    rw [allocate, Action.run_get_bind, Action.run_ofExcept_bind, Bounded.add, Bounded.unsigned,
      if_neg hroom]
    exact ⟨_, rfl⟩

/-- A creation that goes on from a number. -/
theorem does_allocate {α : Type} {request : DeviceRequest} {next : Nat → Action GpuDevice α}
    {answer : α → Except DeviceError (Option Resource)} {device : GpuDevice}
    (hcreation : request.isCreation)
    (hmade : Does device
      ⟨request, answer <$> ((next (device.lastId + 1)).run
        { device with lastId := device.lastId + 1 }).result⟩
      ((next (device.lastId + 1)).run { device with lastId := device.lastId + 1 }).state) :
    Does device ⟨request, answer <$> ((allocate >>= next).run device).result⟩
      ((allocate >>= next).run device).state := by
  obtain ⟨fault, hallocate⟩ | hallocate := run_allocate_cases device
  · rw [Action.run_bind_of_error hallocate]
    exact .stopped request fault hcreation
  · rw [Action.run_bind_of_silent hallocate]
    exact hmade

variable (device : GpuDevice)

theorem does_createMesh (layout : MeshLayout) :
    Does device ⟨.createMesh layout, ((DeviceRequest.createMesh layout).run.run device).result⟩
      ((DeviceRequest.createMesh layout).run.run device).state := by
  rw [DeviceRequest.run, Action.run_map]
  change Does device ⟨_, _ <$> ((createMesh layout).run device).result⟩
    ((createMesh layout).run device).state
  rw [createMesh, Action.run_ofExcept_bind]
  cases hsize : layout.byteSize with
  | error fault => exact .stopped _ fault rfl
  | ok size =>
      dsimp only
      rw [Action.run_get_bind]
      split
      · exact .refused _ _ rfl
      · exact does_allocate rfl (.made (.createMesh layout) (.mesh size) hsize)

theorem does_createProgram :
    Does device ⟨.createProgram, (DeviceRequest.createProgram.run.run device).result⟩
      (DeviceRequest.createProgram.run.run device).state := by
  rw [DeviceRequest.run, Action.run_map]
  exact does_allocate rfl (.made .createProgram .program trivial)

theorem does_createDrawState (mesh : MeshId) (program : ProgramId) :
    Does device ⟨.createDrawState mesh program,
        ((DeviceRequest.createDrawState mesh program).run.run device).result⟩
      ((DeviceRequest.createDrawState mesh program).run.run device).state := by
  rw [DeviceRequest.run, Action.run_map]
  change Does device ⟨_, _ <$> ((createDrawState mesh program).run device).result⟩
    ((createDrawState mesh program).run device).state
  rw [createDrawState, Action.run_get_bind]
  split
  · exact .refused _ _ rfl
  split
  · exact .refused _ _ rfl
  · exact does_allocate rfl (.made (.createDrawState mesh program) (.drawState mesh) rfl)

theorem does_createTexture (image : Image) :
    Does device ⟨.createTexture image, ((DeviceRequest.createTexture image).run.run device).result⟩
      ((DeviceRequest.createTexture image).run.run device).state := by
  rw [DeviceRequest.run, Action.run_map]
  change Does device ⟨_, _ <$> ((createTexture image).run device).result⟩
    ((createTexture image).run device).state
  rw [createTexture, Action.run_get_bind]
  dsimp only
  split
  · exact .refused _ _ rfl
  · exact does_allocate rfl (.made (.createTexture image) .texture trivial)

theorem does_destroy (ρ : Resource) :
    Does device ⟨.destroy ρ, ((DeviceRequest.destroy ρ).run.run device).result⟩
      ((DeviceRequest.destroy ρ).run.run device).state := by
  rw [DeviceRequest.run, Action.run_map]
  change Does device ⟨_, _ <$> ((destroy ρ).run device).result⟩ ((destroy ρ).run device).state
  rw [destroy, Action.run_get_bind]
  dsimp only
  cases halive : device.alive ρ with
  | true => exact .destroyed ρ
  | false =>
      refine .ignored _ rfl (fun σ h => ?_) nofun
      cases h
      exact halive

theorem does_upload (mesh : MeshId) (bytes : List UInt8) :
    Does device ⟨.upload mesh bytes, ((DeviceRequest.upload mesh bytes).run.run device).result⟩
      ((DeviceRequest.upload mesh bytes).run.run device).state := by
  rw [DeviceRequest.run, Action.run_map]
  change Does device ⟨_, _ <$> ((upload mesh bytes).run device).result⟩
    ((upload mesh bytes).run device).state
  have hignored : Does device (.doing (.upload mesh bytes)) device := .ignored _ rfl nofun nofun
  rw [upload, Action.run_get_bind]
  cases device.meshes.get? mesh with
  | none => exact hignored
  | some capacity =>
      dsimp only
      split
      · exact hignored
      split <;> exact hignored

theorem does_run (request : DeviceRequest) :
    Does device ⟨request, (request.run.run device).result⟩ (request.run.run device).state := by
  cases request with
  | createMesh layout => exact does_createMesh device layout
  | createProgram => exact does_createProgram device
  | createDrawState mesh program => exact does_createDrawState device mesh program
  | createTexture image => exact does_createTexture device image
  | destroy ρ => exact does_destroy device ρ
  | upload mesh bytes => exact does_upload device mesh bytes
  | draw call => exact .queued call

end GpuDevice

end Mosaic
