import Mosaic.Num.Binary64

/-!
# Windows and surfaces

The nouns of the platform that shows a canvas: events that it delivers, formats and modes of a
surface, and the requests that a program makes of it, in the order in which it makes them.
-/

namespace Mosaic

/-- A format of the pixels of a surface, by its name. -/
structure SurfaceFormat where
  name : String
  deriving DecidableEq, Repr, Inhabited

/-- A format whose colours are stored on the curve of the standard colour space. -/
def SurfaceFormat.isSrgb (format : SurfaceFormat) : Bool :=
  "Srgb".toList.isSuffixOf format.name.toList

/-- How the opacity of a surface is combined with what lies behind its window, by name. -/
structure AlphaMode where
  name : String
  deriving DecidableEq, Repr

/-- The mode that leaves the choice to the platform. -/
def AlphaMode.auto : AlphaMode := ⟨"Auto"⟩

/-- When a finished frame is shown. -/
inductive PresentMode where
  /-- Together with the refresh of the screen. -/
  | autoVsync
  /-- At once. -/
  | autoNoVsync
  deriving DecidableEq, Repr

def PresentMode.name : PresentMode → String
  | .autoVsync => "AutoVsync"
  | .autoNoVsync => "AutoNoVsync"

/-- How a surface is set up. -/
structure SurfaceConfig where
  width : Nat
  height : Nat
  format : SurfaceFormat
  presentMode : PresentMode
  alphaMode : AlphaMode
  /-- The number of frames that may wait to be shown. -/
  latency : Nat
  deriving DecidableEq, Repr

/-- Why the next frame of a surface could not be had. -/
inductive FrameError where
  | timeout
  | outdated
  | lost
  | outOfMemory
  | other
  deriving DecidableEq, Repr

namespace FrameError

def name : FrameError → String
  | .timeout => "Timeout"
  | .outdated => "Outdated"
  | .lost => "Lost"
  | .outOfMemory => "OutOfMemory"
  | .other => "Other"

def message : FrameError → String
  | .timeout => "A timeout was encountered while trying to acquire the next frame"
  | .outdated =>
    "The underlying surface has changed, and therefore the swap chain must be updated"
  | .lost => "The swap chain has been lost and needs to be recreated"
  | .outOfMemory => "There is no more memory left to allocate a new frame"
  | .other =>
    "Acquiring a texture failed with a generic error. Check error callbacks for more information"

def all : List FrameError := [.timeout, .outdated, .lost, .outOfMemory, .other]

end FrameError

/-- What a platform tells a program. -/
inductive WindowEvent where
  /-- The program may open its window. -/
  | resumed
  /-- A frame is wanted, `elapsed` nanoseconds after the event before it. -/
  | redraw (elapsed : Nat)
  /-- The inside of the window has a new size. -/
  | resized (width height : Nat)
  /-- The user asks to close the window. -/
  | close
  | focused
  | destroyed
  /-- The program is about to end. -/
  | exiting
  deriving DecidableEq, Repr

/-- What a program asks of a platform, and the events that it answers. -/
inductive WindowRequest where
  | event (event : WindowEvent)
  /-- Opens a window of the given inner size. -/
  | openWindow (title : String) (width height : Nat) (resizable : Bool)
  | makeSurface
  | findAdapter (preference : String) (fallback surface : Bool)
  | openDevice
  | configure (config : SurfaceConfig)
  /-- Asks for a redraw event. -/
  | requestRedraw
  | exit
  /-- Asks the surface for its next frame, with what came of it. -/
  | acquireFrame (failure : Option FrameError)
  | present
  | dropSurface
  | dropWindow
  deriving DecidableEq, Repr

end Mosaic
