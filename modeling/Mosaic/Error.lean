import Mosaic.Num.Bounded

/-!
# Errors

Conditions that a caller is expected to meet and handle. A `DeviceError` says why a device did not
make a resource, a `SetupError` why a sheet or a canvas was not made. `message` is the text shown
for each, and `SetupError.cause` the device error behind one.
-/

namespace Mosaic

/-- Why a device did not make a resource. -/
inductive DeviceError where
  /-- There is nothing to draw on. -/
  | notReady
  /-- A handle names no live resource of its kind. -/
  | unknownHandle (kind : String) (id : Nat)
  /-- The device refused, for a reason of its own. -/
  | other (reason : String)
  deriving DecidableEq, Repr

def DeviceError.message : DeviceError → String
  | .notReady => "render backend is not ready"
  | .unknownHandle kind id => s!"unknown {kind} handle {id}"
  | .other reason => s!"render backend error: {reason}"

/-- Why a sheet or a canvas was not made. -/
inductive SetupError where
  /-- A field of a canvas configuration lies outside its range. -/
  | invalidConfig (field : String) (value least greatest : Int)
  /-- The canvas is set up already. -/
  | alreadyValid
  /-- An image has an empty side or does not hold four bytes a pixel. -/
  | invalidImage (width height length : Nat)
  /-- The sprites of a sheet are empty, larger than its image or too many. -/
  | invalidSpriteSize (width height : Nat)
  /-- The device did not make a resource. -/
  | device (error : DeviceError)
  deriving DecidableEq, Repr

/-- The text shown for a setup error. That of an image states the number of bytes needed, a
product that has to fit 64 bits. -/
def SetupError.message : SetupError → Except Fault String
  | .invalidConfig field value least greatest =>
    .ok s!"invalid canvas config: {field} = {value} (allowed {least}..={greatest})"
  | .alreadyValid => .ok "canvas is already set up"
  | .invalidImage width height length => do
    let pixels ← Bounded.mul .bits64 width height
    let bytes ← Bounded.mul .bits64 pixels 4
    return s!"sheet image of {width}x{height} needs {bytes} bytes, got {length}"
  | .invalidSpriteSize width height => .ok s!"invalid sprite size {width}x{height}"
  | .device error => .ok error.message

/-- The device error behind a setup error. -/
def SetupError.cause : SetupError → Option DeviceError
  | .device error => some error
  | _ => none

end Mosaic
