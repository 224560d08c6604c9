import Mathlib.Algebra.Order.Field.Power
import Mathlib.Algebra.Order.Field.Rat
import Mathlib.Data.Rat.Lemmas
import Mathlib.Tactic.FieldSimp
import Mathlib.Tactic.Linarith
import Mathlib.Tactic.Positivity
import Mathlib.Tactic.Ring
import Mosaic.Num.Rounding

/-!
# Bounds on rounding

All bounds come from one description of the nearest number (`exists_nearest`): a positive rational
lies between two powers of two that are `bits` binary places apart from the unit, and the nearest
number is a whole number of units, found by `nearestEven`. So rounding never passes a number of the
format (`nearest_le_of_le`), errs by at most half a unit (`nearest_le_add`), and between two whole
numbers of full length goes to the even one from their middle (`nearest_le_of_le_half`).
-/

namespace Mosaic.Rounding

/-! ### Whole numbers -/

/-- What is at most half a unit above a natural is rounded to at most that natural, when it is
even. -/
theorem nearestEven_le_of_le_half {num den n : Nat} (hden : 0 < den)
    (h : 2 * num ≤ den * (2 * n + 1)) (heven : n % 2 = 0) : nearestEven num den ≤ n := by
  have hle := nearestEven_le num hden
  by_contra hlt
  have hnext : den * (n + 1) ≤ den * nearestEven num den :=
    Nat.mul_le_mul_left den (Nat.not_le.1 hlt)
  have htie : 2 * num = 2 * den * n + den := by
    rw [Nat.mul_add, Nat.mul_one] at hnext
    rw [Nat.mul_add, Nat.mul_left_comm, Nat.mul_one, ← Nat.mul_assoc] at h
    rw [Nat.mul_assoc] at h ⊢
    omega
  have hrest : 2 * (num % den) = den := by
    rw [← Nat.mul_mod_mul_left, htie, Nat.mul_add_mod, Nat.mod_eq_of_lt (by omega)]
  have hresult := even_nearestEven_of_tie hrest
  have hexact : nearestEven num den = n + 1 := by
    refine Nat.le_antisymm (Nat.le_of_mul_le_mul_left ?_ hden) (Nat.not_le.1 hlt)
    rw [Nat.mul_add, Nat.mul_one]
    rw [Nat.mul_assoc] at htie
    omega
  omega

/-! ### Quotients -/

section Quotient

variable (num : Nat) {den : Nat} (hden : 0 < den)
include hden

theorem nearestEven_le_add_half : (nearestEven num den : ℚ) ≤ num / den + 1 / 2 := by
  have hpos : (0 : ℚ) < den := Nat.cast_pos.2 hden
  have hle : (2 : ℚ) * (den * nearestEven num den) ≤ 2 * num + den := by
    exact_mod_cast nearestEven_le num hden
  have hcancel : (num / den : ℚ) * den = num := div_mul_cancel₀ _ hpos.ne'
  nlinarith

theorem le_nearestEven_add_half : (num / den : ℚ) ≤ nearestEven num den + 1 / 2 := by
  have hpos : (0 : ℚ) < den := Nat.cast_pos.2 hden
  have hle : (2 : ℚ) * num ≤ 2 * (den * nearestEven num den) + den := by
    exact_mod_cast le_nearestEven num hden
  rw [div_le_iff₀ hpos]
  linarith

end Quotient

/-! ### The unit of a number -/

/-- Only one of the two shifts by which a power of two is applied is not empty. -/
theorem two_zpow_eq (e : ℤ) : (2 : ℚ) ^ e = 2 ^ e.toNat / 2 ^ (-e).toNat := by
  rw [← zpow_natCast, ← zpow_natCast, ← zpow_sub₀ two_ne_zero]
  congr 1
  omega

theorem Scaled.toRat_eq (s : Scaled) : s.toRat = s.coefficient * 2 ^ s.exponent := by
  rw [toRat, Nat.shiftLeft_eq, Nat.shiftLeft_eq, two_zpow_eq]
  push_cast
  ring

/-- Shifting the two sides of a quotient is to divide it by the unit. -/
theorem shifted_div (num den : Nat) (e : ℤ) :
    ((num <<< (-e).toNat : Nat) : ℚ) / (den <<< e.toNat : Nat) = num / den / 2 ^ e := by
  rw [Nat.shiftLeft_eq, Nat.shiftLeft_eq, two_zpow_eq]
  push_cast
  field_simp

/-- A quotient of positive numbers lies within a factor of two of the quotient of the powers of two
below them. -/
theorem quotient_mem_of_log2 {num den : Nat} (hnum : 0 < num) (hden : 0 < den) :
    (2 : ℚ) ^ ((num.log2 : ℤ) - den.log2 - 1) ≤ num / den ∧
      (num / den : ℚ) < 2 ^ ((num.log2 : ℤ) - den.log2 + 1) := by
  have hpos : (0 : ℚ) < den := Nat.cast_pos.2 hden
  have hnum' : (2 : ℚ) ^ (num.log2 : ℤ) ≤ num ∧ (num : ℚ) < 2 ^ ((num.log2 : ℤ) + 1) := by
    exact_mod_cast And.intro (Nat.log2_self_le hnum.ne') Nat.lt_log2_self
  have hden' : (2 : ℚ) ^ (den.log2 : ℤ) ≤ den ∧ (den : ℚ) < 2 ^ ((den.log2 : ℤ) + 1) := by
    exact_mod_cast And.intro (Nat.log2_self_le hden.ne') Nat.lt_log2_self
  constructor
  · rw [le_div_iff₀ hpos]
    calc (2 : ℚ) ^ ((num.log2 : ℤ) - den.log2 - 1) * den
        ≤ 2 ^ ((num.log2 : ℤ) - den.log2 - 1) * 2 ^ ((den.log2 : ℤ) + 1) := by
          gcongr
          exact hden'.2.le
      _ = 2 ^ (num.log2 : ℤ) := by
          rw [← zpow_add₀ two_ne_zero]
          congr 1
          ring
      _ ≤ num := hnum'.1
  · rw [div_lt_iff₀ hpos]
    calc (num : ℚ) < 2 ^ ((num.log2 : ℤ) + 1) := hnum'.2
      _ = 2 ^ ((num.log2 : ℤ) - den.log2 + 1) * 2 ^ (den.log2 : ℤ) := by
          rw [← zpow_add₀ two_ne_zero]
          congr 1
          ring
      _ ≤ 2 ^ ((num.log2 : ℤ) - den.log2 + 1) * den := by
          gcongr
          exact hden'.1

/-- The unit is chosen so that the number has a whole part of exactly `bits` bits. -/
theorem quotient_mem_of_exponentOf {bits num den : Nat} (hbits : 0 < bits) (hnum : 0 < num)
    (hden : 0 < den) :
    (2 : ℚ) ^ (exponentOf bits num den + bits - 1) ≤ num / den ∧
      (num / den : ℚ) < 2 ^ (exponentOf bits num den + bits) := by
  obtain ⟨hlow, hhigh⟩ := quotient_mem_of_log2 hnum hden
  have hpos : (0 : ℚ) < den := Nat.cast_pos.2 hden
  set high : ℤ := (num.log2 : ℤ) - den.log2 - (bits - 1) with hhighdef
  have htest : den <<< (bits - 1 + high.toNat) ≤ num <<< (-high).toNat ↔
      (2 : ℚ) ^ (high + bits - 1) ≤ num / den := by
    have hsplit : (2 : ℚ) ^ (high + bits - 1) = 2 ^ (bits - 1) * 2 ^ high := by
      rw [← zpow_natCast, ← zpow_add₀ two_ne_zero, Nat.cast_sub hbits]
      congr 1
      push_cast
      ring
    rw [hsplit, two_zpow_eq, le_div_iff₀ hpos, Nat.shiftLeft_eq, Nat.shiftLeft_eq, pow_add,
      ← Nat.cast_le (α := ℚ)]
    push_cast
    rw [mul_div_assoc', div_mul_eq_mul_div, div_le_iff₀ (by positivity)]
    ring_nf
  unfold exponentOf
  dsimp only
  rw [← hhighdef]
  split
  case isTrue h =>
    refine ⟨htest.1 h, lt_of_lt_of_eq hhigh ?_⟩
    congr 1
    omega
  case isFalse h =>
    refine ⟨le_of_eq_of_le ?_ hlow, lt_of_lt_of_eq (not_le.1 (mt htest.2 h)) ?_⟩
    · congr 1
      omega
    · congr 1
      omega

/-! ### The nearest number -/

section Nearest

variable {bits : Nat} {q : ℚ} (hbits : 0 < bits) (hq : 0 < q)
include hbits hq

/-- The nearest number to a positive rational is a whole number of units, found by rounding the
rational in units, which has a whole part of exactly `bits` bits. -/
theorem exists_nearest :
    ∃ (e : ℤ) (num den : Nat), 0 < den ∧ (num / den * 2 ^ e : ℚ) = q ∧
      (2 ^ (bits - 1) * 2 ^ e ≤ q ∧ q < 2 ^ bits * 2 ^ e) ∧
      nearest bits q = nearestEven num den * 2 ^ e := by
  have hnum : 0 < q.num := Rat.num_pos.2 hq
  have hratio : (q.num.natAbs / q.den : ℚ) = q := by
    rw [Nat.cast_natAbs, abs_of_pos hnum, Rat.num_div_den]
  set e := exponentOf bits q.num.natAbs q.den with he
  have hunit : (0 : ℚ) < 2 ^ e := zpow_pos two_pos e
  obtain ⟨hlow, hhigh⟩ :=
    quotient_mem_of_exponentOf hbits (Int.natAbs_pos.2 hnum.ne') q.den_pos
  rw [hratio, ← he] at hlow hhigh
  refine ⟨e, q.num.natAbs <<< (-e).toNat, q.den <<< e.toNat, ?_, ?_, ⟨?_, ?_⟩, ?_⟩
  · rw [Nat.shiftLeft_eq]
    exact Nat.mul_pos q.den_pos (Nat.two_pow_pos _)
  · rw [shifted_div, hratio, div_mul_cancel₀ _ hunit.ne']
  · refine le_of_eq_of_le ?_ hlow
    rw [← zpow_natCast, ← zpow_add₀ two_ne_zero, Nat.cast_sub hbits]
    congr 1
    push_cast
    ring
  · rw [← zpow_natCast, ← zpow_add₀ two_ne_zero, add_comm]
    exact hhigh
  · rw [nearest, if_neg hnum.ne', if_neg hnum.le.not_gt, Scaled.toRat_eq]
    rfl

/-- The nearest number has a coefficient of exactly `bits` bits. -/
theorem exists_coefficient :
    ∃ (n : Nat) (e : ℤ), (2 ^ (bits - 1) ≤ n ∧ n < 2 ^ bits) ∧ nearest bits q = n * 2 ^ e := by
  obtain ⟨e, num, den, hden, hx, ⟨hlow, hhigh⟩, hnearest⟩ := exists_nearest hbits hq
  have hunit : (0 : ℚ) < 2 ^ e := zpow_pos two_pos e
  have habove := nearestEven_le_add_half num hden
  have hbelow := le_nearestEven_add_half num hden
  rw [← hx, mul_le_mul_iff_left₀ hunit] at hlow
  rw [← hx, mul_lt_mul_iff_left₀ hunit] at hhigh
  have hleast : 2 ^ (bits - 1) ≤ nearestEven num den := by
    have h : (2 ^ (bits - 1) : ℚ) < (nearestEven num den : ℚ) + 1 := by linarith
    exact Nat.lt_succ_iff.1 (by exact_mod_cast h)
  have hgreatest : nearestEven num den ≤ 2 ^ bits := by
    have h : (nearestEven num den : ℚ) < 2 ^ bits + 1 := by linarith
    exact Nat.lt_succ_iff.1 (by exact_mod_cast h)
  rcases hgreatest.lt_or_eq with hlt | heq
  · exact ⟨_, e, ⟨hleast, hlt⟩, hnearest⟩
  · -- the next power of two has half the coefficient at twice the unit
    have hless := Nat.pow_lt_pow_right one_lt_two (Nat.sub_lt hbits one_pos)
    refine ⟨2 ^ (bits - 1), e + 1, ⟨le_rfl, hless⟩, ?_⟩
    rw [hnearest, heq, zpow_add_one₀ two_ne_zero, Nat.cast_pow, Nat.cast_pow, Nat.cast_two,
      ← mul_pow_sub_one hbits.ne']
    ring

theorem nearest_pos : 0 < nearest bits q := by
  obtain ⟨n, e, ⟨hn, -⟩, hnearest⟩ := exists_coefficient hbits hq
  have hpos : (0 : ℚ) < n := Nat.cast_pos.2 (lt_of_lt_of_le (Nat.two_pow_pos _) hn)
  rw [hnearest]
  positivity

/-- Rounding never passes a number of the format. -/
theorem nearest_le_of_le {n : Nat} {k : ℤ} (hn : n ≤ 2 ^ bits) (h : q ≤ n * 2 ^ k) :
    nearest bits q ≤ n * 2 ^ k := by
  obtain ⟨e, num, den, hden, hx, ⟨hlow, -⟩, hnearest⟩ := exists_nearest hbits hq
  have hunit : (0 : ℚ) < 2 ^ e := zpow_pos two_pos e
  have hwhole : ∀ m : Nat, q ≤ m * 2 ^ e → nearest bits q ≤ m * 2 ^ e := by
    intro m hm
    have habove := nearestEven_le_add_half num hden
    rw [← hx, mul_le_mul_iff_left₀ hunit] at hm
    have hle : (nearestEven num den : ℚ) < m + 1 := by linarith
    rw [hnearest]
    gcongr
    exact Nat.lt_succ_iff.1 (by exact_mod_cast hle)
  by_cases hk : e ≤ k
  · have hsplit : (n * 2 ^ k : ℚ) = (n * 2 ^ (k - e).toNat : Nat) * 2 ^ e := by
      push_cast
      rw [mul_assoc, ← zpow_natCast, ← zpow_add₀ two_ne_zero]
      congr 2
      omega
    rw [hsplit] at h ⊢
    exact hwhole _ h
  · -- of the numbers with a smaller unit none is above the least one with this unit
    have hleast : (n * 2 ^ k : ℚ) ≤ (2 ^ (bits - 1) : Nat) * 2 ^ e := by
      calc (n * 2 ^ k : ℚ) ≤ (2 ^ bits : Nat) * 2 ^ (e - 1) := by
            gcongr
            · exact one_le_two
            · omega
        _ = (2 ^ (bits - 1) : Nat) * 2 ^ e := by
            rw [zpow_sub_one₀ two_ne_zero, Nat.cast_pow, Nat.cast_pow, Nat.cast_two,
              ← mul_pow_sub_one hbits.ne']
            ring
    refine (hwhole _ (h.trans hleast)).trans ?_
    push_cast
    exact hlow.trans h

/-- Rounding errs by at most half a unit. -/
theorem exists_nearest_le :
    ∃ e : ℤ, 2 ^ (bits - 1) * 2 ^ e ≤ q ∧ nearest bits q ≤ q + 2 ^ e / 2 := by
  obtain ⟨e, num, den, hden, hx, ⟨hlow, -⟩, hnearest⟩ := exists_nearest hbits hq
  refine ⟨e, hlow, ?_⟩
  calc nearest bits q = nearestEven num den * 2 ^ e := hnearest
    _ ≤ (num / den + 1 / 2) * 2 ^ e := by
        gcongr
        exact nearestEven_le_add_half num hden
    _ = q + 2 ^ e / 2 := by
        rw [add_mul, hx]
        ring

/-- The error of rounding, measured at the next power of two. -/
theorem nearest_le_add {k : ℤ} (h : q < 2 ^ k) : nearest bits q ≤ q + 2 ^ (k - bits) / 2 := by
  obtain ⟨e, hlow, hnearest⟩ := exists_nearest_le hbits hq
  have hexponent : e ≤ k - bits := by
    have hlt : (2 : ℚ) ^ ((bits : ℤ) - 1 + e) < 2 ^ k := by
      refine lt_of_eq_of_lt ?_ (lt_of_le_of_lt hlow h)
      rw [zpow_add₀ two_ne_zero, ← zpow_natCast, Nat.cast_sub hbits]
      rfl
    have := (zpow_lt_zpow_iff_right₀ one_lt_two).1 hlt
    omega
  refine hnearest.trans ?_
  gcongr
  exact one_le_two

/-- The error of rounding, measured at the number itself. -/
theorem nearest_le_mul : nearest bits q ≤ q * (1 + 1 / 2 ^ bits) := by
  obtain ⟨e, hlow, hnearest⟩ := exists_nearest_le hbits hq
  have hhalf : (2 : ℚ) ^ e / 2 = 2 ^ (bits - 1) * 2 ^ e * (1 / 2 ^ bits) := by
    rw [← mul_pow_sub_one hbits.ne' (2 : ℚ)]
    field_simp
  calc nearest bits q ≤ q + 2 ^ (bits - 1) * 2 ^ e * (1 / 2 ^ bits) := hhalf ▸ hnearest
    _ ≤ q + q * (1 / 2 ^ bits) := by gcongr
    _ = q * (1 + 1 / 2 ^ bits) := by ring

/-- Between two whole numbers of full length, what lies below the middle is rounded down, and so is
the middle when the lower of the two is even. -/
theorem nearest_le_of_le_half {n : Nat} (hn : 2 ^ (bits - 1) ≤ n) (hn' : n < 2 ^ bits)
    (h : q ≤ n + 1 / 2) (hodd : n % 2 = 1 → q < n + 1 / 2) : nearest bits q ≤ n := by
  by_cases hsmall : q ≤ (2 ^ (bits - 1) : Nat) * 2 ^ (0 : ℤ)
  · have hpower : 2 ^ (bits - 1) ≤ 2 ^ bits := Nat.pow_le_pow_right two_pos (Nat.sub_le _ _)
    refine (nearest_le_of_le hbits hq hpower hsmall).trans ?_
    rw [zpow_zero, mul_one]
    exact_mod_cast hn
  · obtain ⟨e, num, den, hden, hx, ⟨hlow, hhigh⟩, hnearest⟩ := exists_nearest hbits hq
    rw [zpow_zero, mul_one, not_le, Nat.cast_pow, Nat.cast_two] at hsmall
    -- the unit is one
    have htop : q < 2 ^ bits := by
      have : (n : ℚ) + 1 ≤ 2 ^ bits := by exact_mod_cast hn'
      linarith
    have hpower : (0 : ℚ) < 2 ^ (bits - 1) := by positivity
    rw [← mul_pow_sub_one hbits.ne'] at hhigh htop
    have hless : (2 : ℚ) ^ e < 2 ^ (1 : ℤ) := by
      rw [zpow_one]
      nlinarith
    have hmore : (2 : ℚ) ^ (-1 : ℤ) < 2 ^ e := by
      rw [zpow_neg_one]
      nlinarith
    have he : e = 0 := by
      have hless' := (zpow_lt_zpow_iff_right₀ one_lt_two).1 hless
      have hmore' := (zpow_lt_zpow_iff_right₀ one_lt_two).1 hmore
      omega
    subst he
    rw [zpow_zero, mul_one] at hnearest hx
    rw [hnearest, Nat.cast_le]
    rcases Nat.mod_two_eq_zero_or_one n with heven | hodd'
    · refine nearestEven_le_of_le_half hden ?_ heven
      rw [← hx, div_le_iff₀ (Nat.cast_pos.2 hden)] at h
      have h' : (2 * num : ℚ) ≤ den * (2 * n + 1) := by linarith
      exact_mod_cast h'
    · have habove := nearestEven_le_add_half num hden
      rw [hx] at habove
      have hlt : (nearestEven num den : ℚ) < n + 1 := by linarith [hodd hodd']
      exact Nat.lt_succ_iff.1 (by exact_mod_cast hlt)

end Nearest

end Mosaic.Rounding
