/-!
# Rounding

`nearestEven` rounds a quotient of naturals to the nearest natural, a tie to the even one.
`significand` writes a positive rational as a whole number of a given number of bits at a power of
two, again with ties to even. The binary formats of `Mosaic.Num.Binary32` and
`Mosaic.Num.Binary64` are read and written through these two.
-/

namespace Mosaic.Rounding

/-- The natural nearest to `num / den`, of two equally near ones the even one. -/
def nearestEven (num den : Nat) : Nat :=
  let floor := num / den
  let rest := num % den
  if 2 * rest < den then floor
  else if den < 2 * rest then floor + 1
  else floor + floor % 2

/-- The result is at most half a unit above the quotient. -/
theorem nearestEven_le (num : Nat) {den : Nat} (h : 0 < den) :
    2 * (den * nearestEven num den) ≤ 2 * num + den := by
  have split := Nat.div_add_mod num den
  have rest := Nat.mod_lt num h
  unfold nearestEven
  dsimp only
  split
  · omega
  · split
    · rw [Nat.mul_add]
      omega
    · rcases Nat.mod_two_eq_zero_or_one (num / den) with even | odd
      · rw [even, Nat.add_zero]
        omega
      · rw [odd, Nat.mul_add]
        omega

/-- The result is at most half a unit below the quotient. -/
theorem le_nearestEven (num : Nat) {den : Nat} (h : 0 < den) :
    2 * num ≤ 2 * (den * nearestEven num den) + den := by
  have split := Nat.div_add_mod num den
  have rest := Nat.mod_lt num h
  unfold nearestEven
  dsimp only
  split
  · omega
  · split
    · rw [Nat.mul_add]
      omega
    · rw [Nat.mul_add]
      omega

/-- Of two equally near naturals the even one is the result. -/
theorem even_nearestEven_of_tie {num den : Nat} (h : 2 * (num % den) = den) :
    nearestEven num den % 2 = 0 := by
  unfold nearestEven
  dsimp only
  rw [if_neg (by omega), if_neg (by omega)]
  omega

/-- The natural nearest to `num / den` scaled down by `exponent` powers of two, a tie going to the
even one. -/
def scaled (num den : Nat) (exponent : Int) : Nat :=
  nearestEven (num <<< (-exponent).toNat) (den <<< exponent.toNat)

/-- The exponent of two at which the positive quotient `num / den` has a whole part of exactly
`bits` bits. The logarithms of the two sides leave only two candidates. -/
def exponentOf (bits num den : Nat) : Int :=
  let high : Int := (num.log2 : Int) - den.log2 - (bits - 1)
  if den <<< (bits - 1 + high.toNat) ≤ num <<< (-high).toNat then high else high - 1

/-- A whole number times a power of two. -/
structure Scaled where
  coefficient : Nat
  exponent : Int
  deriving DecidableEq, Repr

/-- The value of a scaled number. -/
def Scaled.toRat (s : Scaled) : Rat :=
  (s.coefficient <<< s.exponent.toNat : Nat) / (1 <<< (-s.exponent).toNat : Nat)

/-- The number of `bits` significant bits nearest to the positive rational `q`, a tie going to the
one with an even coefficient. Rounding up may reach the next power of two, so the coefficient lies
between the powers of two `bits - 1` and `bits`, both ends included. -/
def significand (bits : Nat) (q : Rat) : Scaled :=
  let exponent := exponentOf bits q.num.natAbs q.den
  ⟨scaled q.num.natAbs q.den exponent, exponent⟩

/-- The rational of `bits` significant bits nearest to `q`, with its sign. -/
def nearest (bits : Nat) (q : Rat) : Rat :=
  if q.num = 0 then 0
  else if q.num < 0 then -(significand bits q).toRat
  else (significand bits q).toRat

/-- The natural nearest to a non-negative rational, of two equally near ones the greater one. -/
def halfUp (q : Rat) : Nat := ((q + 1 / 2).floor).toNat

end Mosaic.Rounding
