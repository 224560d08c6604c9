import Mosaic.Action

/-!
# Devices

A `Device` makes and destroys the resources of a canvas, takes the bytes of its vertices and draws.
`ResourceSet.acquire` makes all four resources of a canvas or, when one cannot be made, destroys
those made before it, the latest first; `ResourceSet.release` destroys all four.
-/

namespace Mosaic

/-- What a canvas asks of the device that shows it. Each operation may also stop with a fault. -/
class Device (δ : Type) where
  createMesh : MeshLayout → Action δ (Except DeviceError MeshId)
  /-- Makes the program that places and colours vertices. -/
  createProgram : Action δ (Except DeviceError ProgramId)
  createDrawState : MeshId → ProgramId → Action δ (Except DeviceError DrawStateId)
  createTexture : Image → Action δ (Except DeviceError TextureId)
  /-- Destroys a resource; one that does not exist is left alone. -/
  destroy : Resource → Action δ Unit
  upload : MeshId → List UInt8 → Action δ Unit
  draw : DrawCall → Action δ Unit

namespace ResourceSet

variable {δ : Type} [Device δ]

/-- Destroys resources that were made for a set that could not be completed. -/
def rollBack (made : List Resource) : Action δ Unit :=
  Action.each (fun resource => do
    let name := resource.text
    Action.log .debug s!"releasing {name} after failed setup"
    Device.destroy resource) made

/-- Destroys what was made and answers the error. -/
def abandon (made : List Resource) (e : DeviceError) :
    Action δ (Except DeviceError ResourceSet) := do
  rollBack made
  return .error e

/-- Makes all four resources. When one cannot be made, those made before it are destroyed, the
latest first. -/
def acquire (layout : MeshLayout) (image : Image) : Action δ (Except DeviceError ResourceSet) := do
  match ← Device.createMesh layout with
  | .error e => abandon [] e
  | .ok mesh =>
    match ← Device.createProgram with
    | .error e => abandon [.mesh mesh] e
    | .ok program =>
      match ← Device.createDrawState mesh program with
      | .error e => abandon [.program program, .mesh mesh] e
      | .ok drawState =>
        match ← Device.createTexture image with
        | .error e => abandon [.drawState drawState, .program program, .mesh mesh] e
        | .ok texture => return .ok ⟨mesh, program, drawState, texture⟩

/-- Destroys all four resources, those that depend on others first. -/
def release (resources : ResourceSet) : Action δ Unit := do
  Device.destroy (.texture resources.texture)
  Device.destroy (.drawState resources.drawState)
  Device.destroy (.program resources.program)
  Device.destroy (.mesh resources.mesh)

end ResourceSet

end Mosaic
