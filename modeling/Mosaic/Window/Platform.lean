import Mosaic.Action
import Mosaic.Error

/-!
# Platforms

A `Platform` says in advance how a window system answers a program: the screens and the modes of a
surface, what fails and how, what comes of each request for a frame, and the events in their order.
`Platform.scale` and `Platform.format` are the choices that a program makes among what is offered,
and `WindowOptions` those that are left to its user.
-/

namespace Mosaic

/-- What the user of a window chooses. -/
structure WindowOptions where
  title : String
  /-- The pixels of the window for each pixel of the canvas; zero leaves it to the screen. -/
  scale : Nat
  /-- The colour around the canvas and behind empty tiles. -/
  clear : Colour
  /-- Whether frames are shown together with the refresh of the screen. -/
  vsync : Bool
  deriving DecidableEq, Repr

/-- The options of a window that is not told otherwise. -/
def WindowOptions.standard : WindowOptions := ⟨"spritecanvas", 0, .black, true⟩

/-- What a window system answers. -/
structure Platform where
  /-- The scale factors of the screens. -/
  screens : List Rat
  formats : List SurfaceFormat
  alphaModes : List AlphaMode
  /-- The size of the inside of the window, if it is not the size asked for. -/
  innerSize : Option (Nat × Nat)
  /-- What comes of the requests for a frame; those beyond the list succeed. -/
  frames : List (Option FrameError)
  eventLoopFailure : Option String
  runFailure : Option String
  windowFailure : Option String
  surfaceFailure : Option String
  adapterFailure : Option String
  deviceFailure : Option String
  events : List WindowEvent

/-- A platform with one ordinary screen, on which nothing fails and nothing happens. -/
def Platform.ordinary : Platform where
  screens := [1]
  formats := [⟨"Bgra8Unorm"⟩]
  alphaModes := [⟨"Opaque"⟩]
  innerSize := none
  frames := []
  eventLoopFailure := none
  runFailure := none
  windowFailure := none
  surfaceFailure := none
  adapterFailure := none
  deviceFailure := none
  events := []

namespace Platform

/-- The scale of a window: as chosen, else the factor of the first screen in whole pixels, a half
going up, and at least one. -/
def scale (platform : Platform) (options : WindowOptions) : Nat :=
  if 0 < options.scale then options.scale
  else max 1 (Bounded.clamp .bits32 (Rounding.halfUp (platform.screens.head?.getD 1)))

/-- The format of a surface: the first one whose colours are stored plainly, else the first. -/
def format (platform : Platform) : Option SurfaceFormat :=
  (platform.formats.find? fun format => !format.isSrgb).or platform.formats.head?

/-- The alpha mode of a surface: the first one, else whatever the platform chooses. -/
def alphaMode (platform : Platform) : AlphaMode := platform.alphaModes.head?.getD .auto

end Platform

/-- Why a run of a program ended with an error. -/
inductive RunError where
  /-- The event loop could not be made or ended by itself. -/
  | eventLoop (reason : String)
  | window (reason : String)
  /-- The canvas or its sheet could not be made. -/
  | setup (error : SetupError)
  /-- The device could not be had. -/
  | device (error : DeviceError)
  deriving DecidableEq, Repr

def RunError.message : RunError → Except Fault String
  | .eventLoop reason => .ok reason
  | .window reason => .ok reason
  | .setup error => error.message
  | .device error => .ok error.message

end Mosaic
