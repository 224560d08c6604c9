import Mosaic.Device.Basic
import Mosaic.Gpu.Queue
import Mosaic.Table

/-!
# The queueing device

A `GpuDevice` hands resources and bytes to a graphics processor at once and queues draw calls until
`GpuDevice.encode` puts those that can be drawn into one pass. The processor sets limits on the
size of meshes and textures. One counter numbers the resources of all four kinds, and only a
creation that succeeds takes a number.
-/

namespace Mosaic

/-- The limits of a graphics processor. -/
structure GpuLimits where
  /-- The greatest number of bytes of a mesh. -/
  bufferSize : Nat
  /-- The greatest side of a texture. -/
  textureSide : Nat
  deriving DecidableEq, Repr

/-- The limits that every processor is asked for. -/
def GpuLimits.standard : GpuLimits := ⟨268435456, 8192⟩

/-- A device that queues draw calls for a graphics processor. -/
structure GpuDevice where
  limits : GpuLimits
  /-- The number of the latest resource. -/
  lastId : Nat
  /-- The number of bytes of each mesh. -/
  meshes : Table MeshId Nat
  programs : Table ProgramId Unit
  /-- The mesh of each draw state. -/
  drawStates : Table DrawStateId MeshId
  textures : Table TextureId Unit
  pending : DrawQueue

namespace GpuDevice

/-- A device that was not asked anything yet. -/
def fresh : GpuDevice := ⟨.standard, 0, .empty, .empty, .empty, .empty, .empty⟩

instance : Inhabited GpuDevice := ⟨fresh⟩

/-- A number for a new resource. -/
def allocate : Action GpuDevice Nat := do
  let device ← Action.get
  let id ← Action.ofExcept (Bounded.add .bits32 device.lastId 1)
  Action.modify fun device => { device with lastId := id }
  return id

/-- Makes a mesh, unless it is larger than the processor allows. -/
def createMesh (layout : MeshLayout) : Action GpuDevice (Except DeviceError MeshId) := do
  let size ← Action.ofExcept layout.byteSize
  let device ← Action.get
  if device.limits.bufferSize < size then
    return .error (.other s!"vertex buffer of {size} bytes exceeds device limit")
  else
    let mesh := MeshId.mk (← allocate)
    let name := mesh.text
    Action.log .debug s!"created {name} ({size} bytes)"
    Action.modify fun device => { device with meshes := device.meshes.insert mesh size }
    return .ok mesh

def createProgram : Action GpuDevice (Except DeviceError ProgramId) := do
  let program := ProgramId.mk (← allocate)
  let name := program.text
  Action.log .debug s!"created {name}"
  Action.modify fun device => { device with programs := device.programs.insert program () }
  return .ok program

/-- Binds a mesh to a program, both of which have to be alive. -/
def createDrawState (mesh : MeshId) (program : ProgramId) :
    Action GpuDevice (Except DeviceError DrawStateId) := do
  let device ← Action.get
  if !device.meshes.contains mesh then return .error (.unknownHandle "mesh" mesh.id)
  else if !device.programs.contains program then
    return .error (.unknownHandle "program" program.id)
  else
    let drawState := DrawStateId.mk (← allocate)
    let name := drawState.text
    let meshName := mesh.text
    let programName := program.text
    Action.log .debug s!"created {name} ({meshName}, {programName})"
    Action.modify fun device =>
      { device with drawStates := device.drawStates.insert drawState mesh }
    return .ok drawState

/-- Makes a texture of an image and writes its bytes, unless a side is longer than the processor
allows. -/
def createTexture (image : Image) : Action GpuDevice (Except DeviceError TextureId) := do
  let device ← Action.get
  let width := image.width
  let height := image.height
  let side := device.limits.textureSide
  if side < width ∨ side < height then
    return .error (.other s!"sheet of {width}x{height} exceeds texture limit {side}")
  else
    Action.command (.writeTexture width height (width * 4) image.bytes)
    let texture := TextureId.mk (← allocate)
    let name := texture.text
    Action.log .debug s!"created {name} ({width}x{height})"
    Action.modify fun device => { device with textures := device.textures.insert texture () }
    return .ok texture

/-- Whether a resource is alive. -/
def alive (device : GpuDevice) : Resource → Bool
  | .mesh id => device.meshes.contains id
  | .program id => device.programs.contains id
  | .drawState id => device.drawStates.contains id
  | .texture id => device.textures.contains id

/-- The device without a resource. -/
def remove (device : GpuDevice) : Resource → GpuDevice
  | .mesh id => { device with meshes := device.meshes.erase id }
  | .program id => { device with programs := device.programs.erase id }
  | .drawState id => { device with drawStates := device.drawStates.erase id }
  | .texture id => { device with textures := device.textures.erase id }

/-- Destroys a resource; one that is not alive is left alone with a warning. -/
def destroy (resource : Resource) : Action GpuDevice Unit := do
  let device ← Action.get
  let name := resource.text
  if device.alive resource then
    Action.modify fun device => device.remove resource
    Action.log .debug s!"destroyed {name}"
  else Action.log .warn s!"destroy of unknown {name}"

/-- Writes bytes to the beginning of a mesh. Bytes for a mesh that is not alive, or more of them
than the mesh takes, are ignored with a warning; no bytes at all are never written. -/
def upload (mesh : MeshId) (bytes : List UInt8) : Action GpuDevice Unit := do
  let device ← Action.get
  match device.meshes.get? mesh with
  | none =>
    let name := mesh.text
    Action.log .warn s!"update of unknown {name}"
  | some capacity =>
    let length := bytes.length
    if length = 0 then return ()
    else if capacity < length then
      Action.log .warn s!"vertex upload of {length} bytes exceeds mesh capacity {capacity}"
    else Action.command (.writeMesh mesh bytes)

/-- Queues a draw call. -/
def draw (call : DrawCall) : Action GpuDevice Unit :=
  .modify fun device => { device with pending := device.pending.push call }

instance : Device GpuDevice where
  createMesh := createMesh
  createProgram := createProgram
  createDrawState := createDrawState
  createTexture := createTexture
  destroy := destroy
  upload := upload
  draw := draw

def discardPending : Action GpuDevice Unit := do
  let device ← Action.get
  let dropped := device.pending.size
  Action.modify fun device => { device with pending := .empty }
  if 0 < dropped then Action.log .debug s!"dropped {dropped} queued draws" else return ()

/-- Puts one call into the pass. One whose draw state, texture or mesh is not alive is left out
with a warning; the first of the three that is not counts. -/
def encodeCall (call : DrawCall) : Action GpuDevice Unit := do
  let device ← Action.get
  let name := call.drawState.text
  match device.drawStates.get? call.drawState with
  | none => Action.log .warn s!"draw with unknown {name}"
  | some mesh =>
    if !device.textures.contains call.texture then
      let texture := call.texture.text
      Action.log .warn s!"draw with unknown {texture}"
    else if !device.meshes.contains mesh then
      Action.log .warn s!"{name} refers to a released mesh"
    else
      Action.command (.draw ⟨call.drawState, call.texture, mesh, call.vertices % Bounded.Width.bits32.count⟩)

/-- Puts the queued calls into one pass, which clears its target and draws into a rectangle of it,
and hands the pass over. The queue is empty afterwards. -/
def encode (clear : Colour) (viewport : Viewport) : Action GpuDevice Unit := do
  Action.command (.beginPass clear)
  Action.command viewport.command
  let device ← Action.get
  Action.each encodeCall device.pending.visible
  Action.modify fun device => { device with pending := .empty }
  Action.command .submit

end GpuDevice

end Mosaic
