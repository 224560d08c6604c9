/-!
# Binary floating point of 64 bits

`Binary64` is a word of 64 bits that stands for a number: a sign bit, eleven bits of exponent and
52 bits of fraction. `Binary64.toRat` is the value of a finite one.
-/

namespace Mosaic

/-- A word of 64 bits that stands for a binary floating-point number. -/
structure Binary64 where
  bits : UInt64
  deriving DecidableEq, Repr, Inhabited

namespace Binary64

/-- The bits of the exponent. -/
def exponentField (b : Binary64) : Nat := b.bits.toNat / 4503599627370496 % 2048

/-- The bits of the fraction. -/
def fractionField (b : Binary64) : Nat := b.bits.toNat % 4503599627370496

def isNegative (b : Binary64) : Bool := 9223372036854775808 ≤ b.bits.toNat

/-- The magnitude of a finite number. The least exponent field marks the numbers without an
implicit leading bit. -/
def magnitude (b : Binary64) : Rat :=
  let coefficient :=
    if b.exponentField = 0 then b.fractionField
    else (4503599627370496 + b.fractionField) <<< (b.exponentField - 1)
  (coefficient : Rat) / (1 <<< 1074 : Nat)

/-- The value of a finite number. -/
def toRat (b : Binary64) : Rat := if b.isNegative then -b.magnitude else b.magnitude

def zero : Binary64 := ⟨0⟩

def one : Binary64 := ⟨0x3ff0000000000000⟩

end Binary64

end Mosaic
