import Mosaic.Fault

/-!
# Whole numbers of a fixed width

Coordinates and sizes of tiles are signed numbers of 32 bits, all other sizes and counts unsigned
numbers of 16, 32 or 64 bits (`Width`). They are kept as `Int` and `Nat`, and the operations here
take the exact result and either check that it fits (`addSigned`, `mulSigned`, `add`, `sub`, `mul`) or bring
it to the nearest end of the range (`clampSigned`, `clamp`). `reserve` checks that a number of
elements can be stored at all.
-/

namespace Mosaic.Bounded

/-- The widths of unsigned numbers. -/
inductive Width where
  | bits16
  | bits32
  | bits64
  deriving DecidableEq, Repr

def Width.count : Width → Nat
  | .bits16 => 65536
  | .bits32 => 4294967296
  | .bits64 => 18446744073709551616

/-- The least signed number of 32 bits. -/
def minSigned : Int := -2147483648

/-- The greatest signed number of 32 bits. -/
def maxSigned : Int := 2147483647

/-- Whether a number is a signed number of 32 bits. -/
def FitsSigned (n : Int) : Prop := minSigned ≤ n ∧ n ≤ maxSigned

instance (n : Int) : Decidable (FitsSigned n) := inferInstanceAs (Decidable (_ ∧ _))

/-- A signed result, refused when it does not fit 32 bits. -/
def signed (operation : Arithmetic) (n : Int) : Except Fault Int :=
  if FitsSigned n then .ok n else .error (.overflow operation)

/-- An unsigned result, refused when it does not fit its width. -/
def unsigned (width : Width) (operation : Arithmetic) (n : Nat) : Except Fault Nat :=
  if n < width.count then .ok n else .error (.overflow operation)

/-- The sum of two signed numbers. -/
def addSigned (a b : Int) : Except Fault Int := signed .add (a + b)

/-- The product of two signed numbers. -/
def mulSigned (a b : Int) : Except Fault Int := signed .multiply (a * b)

/-- The sum of two unsigned numbers of one width. -/
def add (width : Width) (a b : Nat) : Except Fault Nat := unsigned width .add (a + b)

/-- The product of two unsigned numbers of one width. -/
def mul (width : Width) (a b : Nat) : Except Fault Nat := unsigned width .multiply (a * b)

/-- The difference of two unsigned numbers, refused when it would be negative. -/
def sub (a b : Nat) : Except Fault Nat :=
  if b ≤ a then .ok (a - b) else .error (.overflow .subtract)

/-- The number of bytes that can be addressed. -/
def addressable : Nat := 9223372036854775808

/-- The number of bytes that `count` elements of `size` bytes each take up, refused when they cannot
be addressed. -/
def reserve (count size : Nat) : Except Fault Nat :=
  if count * size < addressable then .ok (count * size) else .error .capacityOverflow

/-- The signed number of 32 bits nearest to `n`. -/
def clampSigned (n : Int) : Int := max minSigned (min n maxSigned)

/-- The unsigned number of a width nearest to `n`. -/
def clamp (width : Width) (n : Nat) : Nat := min n (width.count - 1)

/-- The unsigned number of 32 bits with the same low bits as `n`. -/
def wrap (n : Int) : Nat := (n % 4294967296).toNat

theorem signed_eq_ok_iff {operation : Arithmetic} {n m : Int} :
    signed operation n = .ok m ↔ FitsSigned n ∧ m = n := by
  unfold signed
  split <;> simp_all [eq_comm]

theorem unsigned_eq_ok_iff {width : Width} {operation : Arithmetic} {n m : Nat} :
    unsigned width operation n = .ok m ↔ n < width.count ∧ m = n := by
  unfold unsigned
  split
  · simp_all [eq_comm]
  · simp only [reduceCtorEq, false_iff]
    exact fun h => absurd h.1 ‹_›

theorem signed_of_fits {operation : Arithmetic} {n : Int} (h : FitsSigned n) :
    signed operation n = .ok n := signed_eq_ok_iff.2 ⟨h, rfl⟩

theorem unsigned_of_lt {width : Width} {operation : Arithmetic} {n : Nat} (h : n < width.count) :
    unsigned width operation n = .ok n := unsigned_eq_ok_iff.2 ⟨h, rfl⟩

theorem sub_of_le {a b : Nat} (h : b ≤ a) : sub a b = .ok (a - b) := if_pos h

theorem reserve_eq_ok_iff {count size bytes : Nat} :
    reserve count size = .ok bytes ↔ count * size < addressable ∧ bytes = count * size := by
  unfold reserve
  split
  · simp_all [eq_comm]
  · simp only [reduceCtorEq, false_iff]
    exact fun h => absurd h.1 ‹_›

theorem fitsSigned_clampSigned (n : Int) : FitsSigned (clampSigned n) := by
  simp only [FitsSigned, clampSigned, minSigned, maxSigned]
  omega

theorem clampSigned_of_fits {n : Int} (h : FitsSigned n) : clampSigned n = n := by
  simp only [FitsSigned, clampSigned, minSigned, maxSigned] at *
  omega

end Mosaic.Bounded
