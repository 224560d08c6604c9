/-!
# Random choices

A `RandomSource` draws numbers below a bound. `Xoshiro` is one with 256 bits of state, which
`Xoshiro.ofSeed` fills from a seed through a sequence of mixed counters. A draw takes the high half
of the product of a random word and the bound; when the low half shows that a longer product could
carry into it, a second word decides.
-/

namespace Mosaic

/-- A state from which numbers are drawn. -/
class RandomSource (ρ : Type) where
  /-- A number up to `last`, and the state after it was drawn. -/
  draw : (last : Nat) → ρ → Fin (last + 1) × ρ

/-- Chooses an element of a list that is not empty. -/
def RandomSource.choose {ρ α : Type} [RandomSource ρ] (first : α) (others : List α) (source : ρ) :
    α × ρ :=
  let (i, source) := RandomSource.draw others.length source
  ((first :: others).get i, source)

/-- A generator with four words of state. -/
structure Xoshiro where
  s0 : UInt64
  s1 : UInt64
  s2 : UInt64
  s3 : UInt64
  deriving DecidableEq, Repr

namespace Xoshiro

/-- The distance between two counters of the sequence that a seed starts. -/
def increment : UInt64 := 0x9e3779b97f4a7c15

/-- A counter with its bits mixed. -/
def mix (counter : UInt64) : UInt64 :=
  let z := (counter ^^^ counter >>> 30) * 0xbf58476d1ce4e5b9
  let z := (z ^^^ z >>> 27) * 0x94d049bb133111eb
  z ^^^ z >>> 31

/-- The generator whose words are the first four mixed counters after the seed. -/
def ofSeed (seed : UInt64) : Xoshiro :=
  ⟨mix (seed + increment), mix (seed + 2 * increment), mix (seed + 3 * increment),
    mix (seed + 4 * increment)⟩

/-- A word with its bits moved up by `n` places, those that leave it coming back at the bottom. -/
def rotate (word n : UInt64) : UInt64 := word <<< n ||| word >>> (64 - n)

/-- A random word of 64 bits. -/
def next (g : Xoshiro) : UInt64 × Xoshiro :=
  let result := rotate (g.s0 + g.s3) 23 + g.s0
  let s2 := g.s2 ^^^ g.s0
  let s3 := g.s3 ^^^ g.s1
  (result, ⟨g.s0 ^^^ s3, g.s1 ^^^ s2, s2 ^^^ g.s1 <<< 17, rotate s3 45⟩)

/-- The number of words of 32 bits. -/
def halfWords : Nat := 4294967296

/-- A random word of 32 bits. -/
def nextHalf (g : Xoshiro) : Nat × Xoshiro :=
  let (word, g) := g.next
  ((word >>> 32).toNat, g)

/-- A number below `bound`, a positive number of 32 bits. -/
def below (bound : Nat) (g : Xoshiro) : Nat × Xoshiro :=
  let (word, g) := g.nextHalf
  let high := word * bound / halfWords
  let low := word * bound % halfWords
  if halfWords - bound < low then
    let (word, g) := g.nextHalf
    let carry := word * bound / halfWords
    (if halfWords ≤ low + carry then high + 1 else high, g)
  else (high, g)

theorem nextHalf_lt (g : Xoshiro) : g.nextHalf.1 < halfWords := by
  simp only [nextHalf, UInt64.toNat_shiftRight, halfWords, Nat.shiftRight_eq_div_pow]
  have bound := g.next.1.toNat_lt
  have amount : (32 : UInt64).toNat % 64 = 32 := rfl
  rw [amount]
  omega

/-- A drawn number is below its bound. A carry out of the low half cannot reach the bound, because
the low half of the greatest product leaves no room for one. -/
theorem below_lt (bound : Nat) (g : Xoshiro) (positive : 0 < bound) :
    (g.below bound).1 < bound := by
  have word := nextHalf_lt g
  have greatest : g.nextHalf.1 * bound ≤ (halfWords - 1) * bound :=
    Nat.mul_le_mul_right bound (by omega)
  have split := Nat.div_add_mod (g.nextHalf.1 * bound) halfWords
  unfold below
  dsimp only
  split
  · dsimp only
    split <;> simp only [halfWords] at * <;> omega
  · simp only [halfWords] at *
    omega

/-- A drawn number is below its bound by itself, so taking the remainder changes nothing. -/
instance : RandomSource Xoshiro where
  draw last g :=
    let (n, g) := g.below (last + 1)
    (Fin.ofNat (last + 1) n, g)

end Xoshiro

end Mosaic
