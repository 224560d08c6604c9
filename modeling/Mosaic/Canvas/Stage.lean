import Mosaic.Canvas.Edit
import Mosaic.Canvas.Vertices
import Mosaic.Device.Basic

/-!
# Stages

A `Stage` is a canvas together with the device that shows it. `Stage.setup` makes the resources of
the canvas and empties it, `Stage.render` shows it, and `Stage.discard` gives the resources back.
Between the two the canvas is valid.
-/

namespace Mosaic

/-- A canvas and the device that shows it. -/
structure Stage (δ : Type) where
  canvas : Canvas
  device : δ

namespace Stage

variable {δ : Type}

/-- A stage with a canvas that was never set up. -/
def fresh (sheet : Sheet) (device : δ) : Stage δ := ⟨.fresh sheet, device⟩

def onCanvas {α : Type} (action : Action Canvas α) : Action (Stage δ) α :=
  action.part Stage.canvas fun canvas stage => { stage with canvas := canvas }

def onDevice {α : Type} (action : Action δ α) : Action (Stage δ) α :=
  action.part Stage.device fun device stage => { stage with device := device }

/-- The mesh of a canvas: room for every tile and every slot. -/
def meshLayout : MeshLayout := ⟨Limits.vertices, Vertex.stride⟩

/-- A canvas that was just set up: empty, and holding its resources. -/
def opened (config : Config) (resources : ResourceSet) (canvas : Canvas) : Canvas :=
  { canvas.emptied with
    arena := canvas.arena.clear
    active := some ⟨config, resources⟩ }

/-- The line of the log for a canvas that was set up. -/
def setupLine (config : Config) (width height : Int) : String :=
  let ⟨columns, rows, tileWidth, tileHeight, slots⟩ := config
  s!"canvas setup: {columns}x{rows} tiles of {tileWidth}x{tileHeight} px ({width}x{height} px), {slots} sprites"

variable [Device δ]

/-- Makes the resources of a canvas that is not set up, and empties it. When the configuration is
refused or a resource cannot be made, the canvas stays as it was. -/
def setup (config : Config) : Action (Stage δ) (Except SetupError Unit) := do
  let stage ← Action.get
  if stage.canvas.isValid then return .error .alreadyValid
  else
    match config.validate with
    | .error e => return .error e
    | .ok () =>
      match ← onDevice (ResourceSet.acquire meshLayout stage.canvas.sheet.image) with
      | .error e => return .error (.device e)
      | .ok resources =>
        onCanvas (Action.modify (opened config resources))
        let width ← Action.ofExcept config.width
        let height ← Action.ofExcept config.height
        Action.log .debug (setupLine config width height)
        return .ok ()

/-- A canvas that was just discarded. -/
def closed (canvas : Canvas) : Canvas :=
  { canvas with arena := canvas.arena.clear, active := none }

/-- Gives the resources back. A canvas that is not set up is left alone. -/
def discard : Action (Stage δ) Unit := do
  let stage ← Action.get
  match stage.canvas.active with
  | none => Action.log .debug "discard on invalid canvas ignored"
  | some active =>
    onCanvas (Action.modify fun canvas => { canvas with active := none })
    onDevice active.resources.release
    onCanvas (Action.modify closed)
    Action.log .debug "canvas discarded"

/-- Lets go of the canvas, which gives its resources back if it is set up. -/
def drop : Action (Stage δ) Unit := do
  let stage ← Action.get
  if stage.canvas.isValid then discard else return ()

/-- Lists the vertices of the canvas, hands them to the device and draws them. -/
def render : Action (Stage δ) Unit := do
  let active ← onCanvas (Action.query Canvas.requireActive)
  onCanvas Canvas.updateVertices
  let stage ← Action.get
  let count := stage.canvas.vertexCount
  Action.log .trace s!"canvas render: {count} vertices"
  onDevice (Device.upload active.resources.mesh stage.canvas.arena.bytes)
  onDevice (Device.draw ⟨active.resources.drawState, active.resources.texture, count⟩)

end Stage

end Mosaic
