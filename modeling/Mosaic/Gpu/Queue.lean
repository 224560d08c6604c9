import Mosaic.Device.Handle

/-!
# Draw queues

A `DrawQueue` holds the draw calls that wait for the next frame, oldest first. Those without
vertices wait like the others but are not drawn (`DrawQueue.visible`).
-/

namespace Mosaic

/-- Draw calls that wait for the next frame. -/
structure DrawQueue where
  calls : List DrawCall
  deriving DecidableEq, Repr

namespace DrawQueue

/-- The queue in which no call waits. -/
def empty : DrawQueue := ⟨[]⟩

/-- The queue with one more call at the end. -/
def push (queue : DrawQueue) (call : DrawCall) : DrawQueue := ⟨queue.calls ++ [call]⟩

/-- The number of calls that wait. -/
def size (queue : DrawQueue) : Nat := queue.calls.length

/-- Whether no call waits. -/
def isEmpty (queue : DrawQueue) : Bool := queue.calls.isEmpty

/-- The calls that draw something. -/
def visible (queue : DrawQueue) : List DrawCall :=
  queue.calls.filter fun call => 0 < call.vertices

end DrawQueue

end Mosaic
