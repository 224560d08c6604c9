import Mosaic.Num.Rounding

/-!
# Binary floating point of 32 bits

`Binary32` is a word of 32 bits that stands for a number: a sign bit, eight bits of exponent and 23
bits of fraction. Vertex data is kept as such words, so that every pattern survives, also those
that are not numbers. `Binary32.ofRat` is the word of the nearest number, a tie going to the even
one. Arithmetic takes the exact rational result and rounds it (`Binary32.round`). The magnitudes
met here lie between `2 ^ -64` and `2 ^ 64`, far inside the range of the format, so neither
infinities nor numbers of reduced precision arise.
-/

namespace Mosaic

/-- A word of 32 bits that stands for a binary floating-point number. -/
structure Binary32 where
  bits : UInt32
  deriving DecidableEq, Repr, Inhabited

namespace Binary32

/-- The number of significant bits. -/
def precision : Nat := 24

/-- The nearest number of 24 significant bits, a tie going to the even one. -/
def round (q : Rat) : Rat := Rounding.nearest precision q

/-- The magnitude bits of a positive number. The coefficient brings the leading bit along, which
adds one to the exponent field; the power of two above all coefficients carries into the next
exponent in the same way. -/
def magnitude (s : Rounding.Scaled) : Nat :=
  (s.exponent + 149).toNat * 8388608 + s.coefficient

/-- The word of the number nearest to `q`; zero is the word without a set bit. -/
def ofRat (q : Rat) : Binary32 :=
  if q.num = 0 then ⟨0⟩
  else
    let size := magnitude (Rounding.significand precision q)
    ⟨UInt32.ofNat (if q.num < 0 then 2147483648 + size else size)⟩

/-- The word of the quotient of two whole numbers, each of which is first rounded itself. -/
def ratio (num den : Int) : Binary32 := ofRat (round num / round den)

def one : Binary32 := ⟨0x3f800000⟩

def zero : Binary32 := ⟨0⟩

end Binary32

end Mosaic
