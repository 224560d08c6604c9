import Mosaic.Device.Basic
import Mosaic.Table

/-!
# The recording device

A `Recorder` draws nothing and remembers everything: which resources are alive, the vertices of
each mesh, and for each draw a copy of the vertices that it shows (`DrawRecord`). One counter
numbers the resources of all four kinds. `Recorder.failOn` makes the next creation of a kind fail.
-/

namespace Mosaic

/-- A draw with the vertices that it shows. -/
structure DrawRecord where
  call : DrawCall
  vertices : List Vertex
  deriving DecidableEq, Repr

/-- A mesh of a recorder. -/
structure RecordedMesh where
  /-- The greatest number of bytes that it takes. -/
  capacity : Nat
  vertices : List Vertex
  deriving DecidableEq, Repr

/-- A device that remembers what it was asked. -/
structure Recorder where
  /-- The number of the latest resource. -/
  lastId : Nat
  meshes : Table MeshId RecordedMesh
  programs : Table ProgramId Unit
  /-- The mesh of each draw state. -/
  drawStates : Table DrawStateId MeshId
  textures : Table TextureId (Nat × Nat)
  /-- The draws, oldest first. -/
  draws : List DrawRecord
  /-- The kind whose next creation fails. -/
  failing : Option ResourceKind

namespace Recorder

/-- A recorder that was not asked anything yet. -/
def fresh : Recorder := ⟨0, .empty, .empty, .empty, .empty, [], none⟩

instance : Inhabited Recorder := ⟨fresh⟩

/-- Makes the next creation of a kind fail. -/
def failOn (kind : ResourceKind) : Action Recorder Unit :=
  .modify fun r => { r with failing := some kind }

/-- The number of resources alive. -/
def live (r : Recorder) : Nat :=
  r.meshes.size + r.programs.size + r.drawStates.size + r.textures.size

/-- The latest draw. -/
def lastDraw (r : Recorder) : Option DrawRecord := r.draws.getLast?

/-- Forgets the draws. -/
def clearDraws : Action Recorder Unit := .modify fun r => { r with draws := [] }

def meshVertices (r : Recorder) (mesh : MeshId) : Option (List Vertex) :=
  (r.meshes.get? mesh).map RecordedMesh.vertices

def textureSize (r : Recorder) (texture : TextureId) : Option (Nat × Nat) :=
  r.textures.get? texture

/-- A number for a new resource of the given kind, unless its creation was made to fail. -/
def allocate (kind : ResourceKind) : Action Recorder (Except DeviceError Nat) := fun r =>
  if r.failing = some kind then
    let name := kind.name
    ⟨.ok (.error (.other s!"injected {name} failure")), { r with failing := none }, []⟩
  else
    match Bounded.add .bits32 r.lastId 1 with
    | .ok id => ⟨.ok (.ok id), { r with lastId := id }, []⟩
    | .error fault => ⟨.error fault, r, []⟩

/-- Makes an empty mesh. Its number is taken before its size is computed. -/
def createMesh (layout : MeshLayout) : Action Recorder (Except DeviceError MeshId) := do
  match ← allocate .mesh with
  | .error e => return .error e
  | .ok id =>
    let capacity ← Action.ofExcept layout.byteSize
    Action.modify fun r => { r with meshes := r.meshes.insert ⟨id⟩ ⟨capacity, []⟩ }
    return .ok ⟨id⟩

def createProgram : Action Recorder (Except DeviceError ProgramId) := do
  match ← allocate .program with
  | .error e => return .error e
  | .ok id =>
    Action.modify fun r => { r with programs := r.programs.insert ⟨id⟩ () }
    return .ok ⟨id⟩

/-- Binds a mesh to a program, both of which have to be alive. -/
def createDrawState (mesh : MeshId) (program : ProgramId) :
    Action Recorder (Except DeviceError DrawStateId) := do
  let r ← Action.get
  if !r.meshes.contains mesh then return .error (.unknownHandle "mesh" mesh.id)
  else if !r.programs.contains program then return .error (.unknownHandle "program" program.id)
  else
    match ← allocate .drawState with
    | .error e => return .error e
    | .ok id =>
      Action.modify fun r => { r with drawStates := r.drawStates.insert ⟨id⟩ mesh }
      return .ok ⟨id⟩

/-- Makes a texture, of which the size is remembered. -/
def createTexture (image : Image) : Action Recorder (Except DeviceError TextureId) := do
  match ← allocate .texture with
  | .error e => return .error e
  | .ok id =>
    Action.modify fun r =>
      { r with textures := r.textures.insert ⟨id⟩ (image.width, image.height) }
    return .ok ⟨id⟩

/-- Whether a resource is alive. -/
def alive (r : Recorder) : Resource → Bool
  | .mesh id => r.meshes.contains id
  | .program id => r.programs.contains id
  | .drawState id => r.drawStates.contains id
  | .texture id => r.textures.contains id

/-- The recorder without a resource. -/
def remove (r : Recorder) : Resource → Recorder
  | .mesh id => { r with meshes := r.meshes.erase id }
  | .program id => { r with programs := r.programs.erase id }
  | .drawState id => { r with drawStates := r.drawStates.erase id }
  | .texture id => { r with textures := r.textures.erase id }

/-- Destroys a resource; one that is not alive is left alone with a warning. -/
def destroy (resource : Resource) : Action Recorder Unit := do
  let r ← Action.get
  if r.alive resource then Action.modify fun r => r.remove resource
  else
    let name := resource.text
    Action.log .warn s!"destroy of unknown {name}"

/-- Replaces the vertices of a mesh by those that the bytes make up. Bytes for a mesh that is not
alive, or more of them than the mesh takes, are ignored with a warning. -/
def upload (mesh : MeshId) (bytes : List UInt8) : Action Recorder Unit := do
  let r ← Action.get
  match r.meshes.get? mesh with
  | none =>
    let name := mesh.text
    Action.log .warn s!"update of unknown {name}"
  | some stored =>
    let length := bytes.length
    let capacity := stored.capacity
    if capacity < length then
      Action.log .warn s!"vertex upload of {length} bytes exceeds mesh capacity {capacity}"
    else
      Action.modify fun r =>
        { r with meshes := r.meshes.insert mesh ⟨capacity, Vertex.decode bytes⟩ }

/-- The vertices that a draw of the given number shows of a mesh; none of one that is not alive. -/
def shown (r : Recorder) (mesh : MeshId) (count : Nat) : List Vertex :=
  ((r.meshVertices mesh).getD []).take count

/-- Records a draw. One with a draw state or texture that is not alive is ignored with a
warning. -/
def draw (call : DrawCall) : Action Recorder Unit := do
  let r ← Action.get
  match r.drawStates.get? call.drawState with
  | none =>
    let name := call.drawState.text
    Action.log .warn s!"draw with unknown {name}"
  | some mesh =>
    if r.textures.contains call.texture then
      Action.modify fun r => { r with draws := r.draws ++ [⟨call, r.shown mesh call.vertices⟩] }
    else
      let name := call.texture.text
      Action.log .warn s!"draw with unknown {name}"

instance : Device Recorder where
  createMesh := createMesh
  createProgram := createProgram
  createDrawState := createDrawState
  createTexture := createTexture
  destroy := destroy
  upload := upload
  draw := draw

end Recorder

end Mosaic
