import Mosaic.Window.Platform
import Mosaic.Window.Scene

/-!
# The application of a window

An `App` shows a scene in a window of a platform. It opens its window when it is resumed, asks the
scene for a new picture on each redraw, and keeps the surface as large as the window. An attempt to
open the window that fails leaves nothing behind but its error, and asks the event loop to end.

`App.handle` answers one event, and `App.run` delivers the events of a platform until the program
asks for the end. What the window holds is given back in a fixed order: canvas, surface, window.
-/

namespace Mosaic

/-- The size of a window at which each pixel of the canvas takes `scale` pixels, cut off at the
greatest size. -/
def windowSize (config : Config) (scale : Nat) : Except Fault (Nat × Nat) := do
  let width ← config.width
  let height ← config.height
  return (Bounded.clamp .bits32 (Bounded.wrap width * scale),
    Bounded.clamp .bits32 (Bounded.wrap height * scale))

/-- What an open window holds. -/
structure Live where
  stage : Stage GpuDevice
  surface : SurfaceConfig

/-- An application and what it knows of its platform. -/
structure App (α : Type) where
  scene : α
  /-- The open window. -/
  live : Option Live
  /-- The nanoseconds that passed so far. -/
  clock : Nat
  /-- When the scene was last asked for a picture. -/
  lastFrame : Option Nat
  /-- What will come of the next requests for a frame. -/
  frames : List (Option FrameError)
  /-- The error of the latest attempt to open the window that failed. -/
  error : Option RunError
  ending : Bool

namespace App

variable {α β : Type}

/-- An application whose window was never open. -/
def fresh (platform : Platform) (scene : α) : App α :=
  ⟨scene, none, 0, none, platform.frames, none, false⟩

def exit : Action (App α) Unit := do
  Action.modify fun app => { app with ending := true }
  Action.ask .exit

/-- Runs an action on the scene and a stage that the application does not hold. The stage goes back
to the caller, but is lost when the action stops. -/
def lend (stage : Stage GpuDevice) (action : Action (Shown α) β) :
    Action (App α) (β × Stage GpuDevice) := fun app =>
  match action ⟨app.scene, stage⟩ with
  | ⟨.ok b, shown, notes⟩ => ⟨.ok (b, shown.stage), { app with scene := shown.scene }, notes⟩
  | ⟨.error fault, shown, notes⟩ => ⟨.error fault, { app with scene := shown.scene }, notes⟩

/-- Runs an action on the scene and the stage of an open window. -/
def onShown (live : Live) (action : Action (Shown α) β) : Action (App α) β := fun app =>
  match action ⟨app.scene, live.stage⟩ with
  | ⟨result, shown, notes⟩ =>
    ⟨result,
      { app with scene := shown.scene, live := some { live with stage := shown.stage } }, notes⟩

/-- Sets the canvas up and lets the scene fill it. When either does not succeed, the canvas is let
go of. -/
def openStage (scene : Scene α) (config : Config) : Action (Shown α) (Except RunError Unit) :=
  Action.orClean
    (do
      match ← Shown.onStage (Stage.setup config) with
      | .error e => return .error (.setup e)
      | .ok () =>
        scene.start
        return .ok ())
    (Shown.onStage Stage.drop)

/-- How a surface is set up for a window of the given inner size. No side is empty. -/
def surfaceConfig (options : WindowOptions) (platform : Platform) (format : SurfaceFormat)
    (width height : Nat) : SurfaceConfig where
  width := max 1 width
  height := max 1 height
  format := format
  presentMode := if options.vsync then .autoVsync else .autoNoVsync
  alphaMode := platform.alphaMode
  latency := 2

/-- Sets a surface up and opens the stage on it. -/
def openSurface (scene : Scene α) (options : WindowOptions) (platform : Platform) (config : Config)
    (scale width height : Nat) : Action (App α) (Except RunError Unit) := do
  Action.ask (.findAdapter "HighPerformance" false true)
  match platform.adapterFailure with
  | some reason => return .error (.device (.other ("no suitable GPU adapter found: " ++ reason)))
  | none =>
    Action.ask .openDevice
    match platform.deviceFailure with
    | some reason => return .error (.device (.other reason))
    | none =>
      match platform.format with
      | none => return .error (.device .notReady)
      | some format =>
        let (innerWidth, innerHeight) := platform.innerSize.getD (width, height)
        let surface := surfaceConfig options platform format innerWidth innerHeight
        Action.ask (.configure surface)
        let made ← Action.part App.scene (fun state app => { app with scene := state }) scene.sheet
        match made with
        | .error e => return .error (.setup e)
        | .ok sheet =>
          match ← lend (.fresh sheet GpuDevice.fresh) (openStage scene config) with
          | (.error e, _) => return .error e
          | (.ok (), stage) =>
            let name := format.name
            Action.log .debug
              s!"window {innerWidth}x{innerHeight} (scale {scale}), surface format {name}"
            Action.modify fun app => { app with live := some ⟨stage, surface⟩ }
            return .ok ()

/-- Opens the window. When something fails, whatever was made before is given back. -/
def openWindow (scene : Scene α) (options : WindowOptions) (platform : Platform) :
    Action (App α) (Except RunError Unit) := do
  let app ← Action.get
  let config := scene.config app.scene
  match config.validate with
  | .error e => return .error (.setup e)
  | .ok () =>
    let scale := platform.scale options
    let (width, height) ← Action.ofExcept (windowSize config scale)
    Action.ask (.openWindow options.title width height true)
    match platform.windowFailure with
    | some reason => return .error (.window reason)
    | none =>
      Action.orClean
        (do
          Action.ask .makeSurface
          match platform.surfaceFailure with
          | some reason => return .error (.device (.other reason))
          | none =>
            Action.orClean (openSurface scene options platform config scale width height)
              (Action.ask .dropSurface))
        (Action.ask .dropWindow)

/-- Opens the window unless it is open. -/
def resume (scene : Scene α) (options : WindowOptions) (platform : Platform) :
    Action (App α) Unit := do
  let app ← Action.get
  if app.live.isSome then return ()
  else
    match ← openWindow scene options platform with
    | .ok () => Action.ask .requestRedraw
    | .error e =>
      let reason ← Action.ofExcept e.message
      Action.log .error s!"failed to initialize renderer: {reason}"
      Action.modify fun app => { app with error := some e }
      exit

/-- What comes of a request for a frame. -/
def acquireFrame : Action (App α) (Option FrameError) := do
  let app ← Action.get
  let failure := app.frames.head?.join
  Action.modify fun app => { app with frames := app.frames.tail }
  Action.ask (.acquireFrame failure)
  return failure

def present (options : WindowOptions) (surface : SurfaceConfig) :
    Action (Stage GpuDevice) Unit := do
  Stage.render
  let width ← Stage.onCanvas (Action.query Canvas.width)
  let height ← Stage.onCanvas (Action.query Canvas.height)
  let viewport ← Action.ofExcept
    (Viewport.fit surface.width surface.height (Bounded.wrap width) (Bounded.wrap height))
  Stage.onDevice (GpuDevice.encode options.clear viewport)
  Action.ask .present

/-- The time since the scene was last asked for a picture; none has passed before the first. -/
def elapsed (app : App α) : Nat :=
  match app.lastFrame with
  | some time => app.clock - time
  | none => 0

def onStage (action : Action (Stage GpuDevice) Unit) : Action (App α) Unit := do
  let app ← Action.get
  match app.live with
  | none => return ()
  | some live => onShown live (Shown.onStage action)

/-- Asks the scene for a picture and shows it. A frame that cannot be had is left out, and the
surface is set up again. -/
def redraw (scene : Scene α) (options : WindowOptions) : Action (App α) Unit := do
  let app ← Action.get
  match app.live with
  | none => return ()
  | some live =>
    Action.modify fun app => { app with lastFrame := some app.clock }
    if ← onShown live (scene.frame app.elapsed) then
      match ← acquireFrame with
      | some failure =>
        let reason := failure.message
        Action.log .warn s!"surface texture unavailable: {reason}"
        onStage (Stage.onDevice GpuDevice.discardPending)
        Action.ask (.configure live.surface)
        Action.ask .requestRedraw
      | none =>
        onStage (present options live.surface)
        Action.ask .requestRedraw
    else exit

/-- Fits the surface to a new size of the window. No side becomes empty. -/
def resize (width height : Nat) : Action (App α) Unit := do
  let app ← Action.get
  match app.live with
  | none => return ()
  | some live =>
    let surface := { live.surface with width := max 1 width, height := max 1 height }
    Action.modify fun app => { app with live := some { live with surface := surface } }
    Action.ask (.configure surface)
    Action.ask .requestRedraw

/-- Gives back what an open window holds, after an action on the stage. -/
def giveBack (last : Action (Stage GpuDevice) Unit) : Action (App α) Unit := do
  let app ← Action.get
  match app.live with
  | none => return ()
  | some live =>
    onShown live (Shown.onStage last)
    Action.modify fun app => { app with live := none }
    Action.ask .dropSurface
    Action.ask .dropWindow

def handle (scene : Scene α) (options : WindowOptions) (platform : Platform) :
    WindowEvent → Action (App α) Unit
  | .resumed => resume scene options platform
  | .redraw elapsed => do
    Action.modify fun app => { app with clock := app.clock + elapsed }
    redraw scene options
  | .resized width height => resize width height
  | .close => exit
  | .focused => return ()
  | .destroyed => return ()
  | .exiting => giveBack Stage.discard

def deliver (scene : Scene α) (options : WindowOptions) (platform : Platform)
    (event : WindowEvent) : Action (App α) Unit := do
  Action.ask (.event event)
  handle scene options platform event

/-- Delivers events until the program asks for the end. -/
def deliverAll (scene : Scene α) (options : WindowOptions) (platform : Platform) :
    List WindowEvent → Action (App α) Unit
  | [] => return ()
  | event :: rest => do
    deliver scene options platform event
    let app ← Action.get
    if app.ending then return () else deliverAll scene options platform rest

/-- Delivers the events of the platform and lets the program end. A run that stops with a fault or
whose event loop fails gives back what the window holds. -/
def loop (scene : Scene α) (options : WindowOptions) (platform : Platform) :
    Action (App α) (Except RunError Unit) :=
  Action.onFault
    (do
      deliverAll scene options platform platform.events
      match platform.runFailure with
      | some reason =>
        giveBack Stage.drop
        return .error (.eventLoop reason)
      | none =>
        deliver scene options platform .exiting
        let app ← Action.get
        match app.error with
        | some e => return .error e
        | none => return .ok ())
    (giveBack Stage.drop)

/-- Shows a scene on a platform from the first event to the last. -/
def run (scene : Scene α) (options : WindowOptions) (platform : Platform) (state : α) :
    Outcome (App α) (Except RunError Unit) :=
  match platform.eventLoopFailure with
  | some reason => ⟨.ok (.error (.eventLoop reason)), fresh platform state, []⟩
  | none => loop scene options platform (fresh platform state)

end App

end Mosaic
