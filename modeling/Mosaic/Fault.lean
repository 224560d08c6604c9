/-!
# Faults

A `Fault` is the reason why an operation stopped half way: its caller broke the contract of the
operation, or a number left the width it is kept in. Conditions that a caller is expected to meet
and handle are `DeviceError` and `SetupError` instead. `Fault.message` is the text shown for a
fault.
-/

namespace Mosaic

/-- The arithmetic operations whose result has to stay within a fixed width. -/
inductive Arithmetic where
  | add
  | subtract
  | multiply
  deriving DecidableEq, Repr

def Arithmetic.name : Arithmetic → String
  | .add => "add"
  | .subtract => "subtract"
  | .multiply => "multiply"

/-- Why an operation stopped half way. -/
inductive Fault where
  /-- The exact result does not fit the width of its operands. -/
  | overflow (operation : Arithmetic)
  /-- More bytes were asked for than can be addressed. -/
  | capacityOverflow
  /-- A canvas was used before it was set up or after it was discarded. -/
  | canvasUnset
  /-- A character map was given a negative size. -/
  | negativeMap (width height : Int)
  /-- A character map does not hold one character for each cell of its block. -/
  | mapLength (width height : Int) (needed given : Nat)
  /-- A tile lies outside the grid of its canvas. -/
  | outsideGrid (x y columns rows : Int)
  /-- A sprite slot is not among the slots of its canvas. -/
  | slotOutOfRange (slot slots : Nat)
  /-- A sprite is not on the sheet. -/
  | offSheet (sprite sprites : Nat)
  /-- A vertex arena has no room for one more quad. -/
  | arenaFull (length quad capacity : Nat)
  deriving DecidableEq, Repr

def Fault.message : Fault → String
  | .overflow operation =>
    let verb := operation.name
    s!"attempt to {verb} with overflow"
  | .capacityOverflow => "capacity overflow"
  | .canvasUnset => "canvas used before setup or after discard"
  | .negativeMap width height => s!"char map size {width}x{height} is negative"
  | .mapLength width height needed given =>
    s!"char map of {width}x{height} needs {needed} characters, got {given}"
  | .outsideGrid x y columns rows => s!"tile ({x}, {y}) outside {columns}x{rows} grid"
  | .slotOutOfRange slot slots =>
    s!"sprite index {slot} out of range (canvas has {slots} sprites)"
  | .offSheet sprite sprites => s!"sprite {sprite} not on sheet ({sprites} sprites)"
  | .arenaFull length quad capacity =>
    s!"vertex buffer overflow: {length} + {quad} > {capacity}"

end Mosaic
