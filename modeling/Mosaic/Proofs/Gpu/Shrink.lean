import Mosaic.Proofs.Gpu.Viewport
import Mosaic.Proofs.Num.Rounding

/-!
# The viewport of a small surface

On a surface that is smaller than the canvas, a side of the canvas is shrunk by rounding both sizes,
their quotient and the product. Each of these may go up, so the result may be larger than the
surface, by at most one part in four million (`shrink_le_mul`), and then the viewport is refused.
Up to `steadySide` this does not happen (`shrink_le`), since there the product is at most half a
pixel above the side of the surface, where it is rounded down. On a surface one pixel longer it does.
-/

namespace Mosaic

namespace Viewport

/-- The longest side of a surface that no canvas is shrunk to more than. -/
def steadySide : Nat := 8392704

/-! ### The rounded sizes -/

theorem round_pos {n : Nat} (hn : 0 < n) : 0 < Binary32.round n :=
  Rounding.nearest_pos (by decide) (Nat.cast_pos.2 hn)

/-- A size of at most 24 bits is held exactly, so it is not rounded up. -/
theorem round_le {n : Nat} (hn : 0 < n) (h : n ≤ 16777216) : Binary32.round n ≤ n := by
  have hle : Binary32.round n ≤ n * 2 ^ (0 : ℤ) :=
    Rounding.nearest_le_of_le (by decide) (Nat.cast_pos.2 hn) h (by rw [zpow_zero, mul_one])
  rwa [zpow_zero, mul_one] at hle

theorem round_le_mul {n : Nat} (hn : 0 < n) : Binary32.round n ≤ n * (1 + 1 / 2 ^ 24) :=
  Rounding.nearest_le_mul (by decide) (Nat.cast_pos.2 hn)

/-! ### The quotient -/

section Quotient

variable {side canvas : Nat} (hside : 0 < side) (hcanvas : 0 < canvas)
include hside hcanvas

theorem quotient_pos : 0 < quotient side canvas :=
  Rounding.nearest_pos (by decide) (div_pos (round_pos hside) (round_pos hcanvas))

theorem quotient_le_mul :
    quotient side canvas ≤ Binary32.round side / Binary32.round canvas * (1 + 1 / 2 ^ 24) :=
  Rounding.nearest_le_mul (by decide) (div_pos (round_pos hside) (round_pos hcanvas))

variable {n : Nat} {e : ℤ} (hcoefficient : Binary32.round canvas = n * 2 ^ e)
include hcoefficient

/-- What is rounded is at most the quotient of the side and the coefficient of the canvas. -/
theorem rounded_div_le (hexact : side ≤ 16777216) :
    Binary32.round side / Binary32.round canvas ≤ side / n * 2 ^ (-e) := by
  have hcanvas' := round_pos hcanvas
  calc Binary32.round side / Binary32.round canvas
      ≤ side / Binary32.round canvas := by
        gcongr
        exact round_le hside hexact
    _ = side / n * 2 ^ (-e) := by rw [hcoefficient, zpow_neg, ← div_eq_mul_inv, div_div]

/-- The quotient of a side shorter than the coefficient lies in the binade below the unit. -/
theorem quotient_le_of_lt (hexact : side ≤ 16777216) (h : side < n) :
    quotient side canvas ≤ (side / n + 1 / 33554432) * 2 ^ (-e) := by
  have hpos : (0 : ℚ) < n := Nat.cast_pos.2 (Nat.zero_lt_of_lt h)
  have hratio := rounded_div_le hside hcanvas hcoefficient hexact
  have hless : Binary32.round side / Binary32.round canvas < 2 ^ (-e) := by
    refine lt_of_le_of_lt hratio ?_
    rw [mul_lt_iff_lt_one_left (zpow_pos two_pos _), div_lt_one hpos]
    exact_mod_cast h
  calc quotient side canvas
      ≤ Binary32.round side / Binary32.round canvas + 2 ^ (-e - 24) / 2 :=
        Rounding.nearest_le_add (by decide) (div_pos (round_pos hside) (round_pos hcanvas)) hless
    _ ≤ side / n * 2 ^ (-e) + 2 ^ (-e) * 2 ^ (-24 : ℤ) / 2 := by
        rw [sub_eq_add_neg, zpow_add₀ two_ne_zero]
        gcongr
    _ = (side / n + 1 / 33554432) * 2 ^ (-e) := by
        norm_num
        ring

/-- The quotient of a side that is `d` longer than the coefficient is at most that of a side `d`
longer than the least coefficient, which is a number of the format. -/
theorem quotient_le_of_add {d : Nat} (hexact : side ≤ 16777216) (hn : 8388608 ≤ n)
    (h : side = n + d) : quotient side canvas ≤ (1 + d / 8388608) * 2 ^ (-e) := by
  have hpos : (0 : ℚ) < n := Nat.cast_pos.2 (by omega)
  have hsplit : (1 + d / 8388608 : ℚ) * 2 ^ (-e) = (8388608 + d : Nat) * 2 ^ (-e - 23) := by
    rw [sub_eq_add_neg, zpow_add₀ two_ne_zero]
    push_cast
    norm_num
    ring
  rw [hsplit]
  refine Rounding.nearest_le_of_le (by decide) (div_pos (round_pos hside) (round_pos hcanvas))
    (show 8388608 + d ≤ 16777216 by omega) ?_
  rw [← hsplit]
  refine (rounded_div_le hside hcanvas hcoefficient hexact).trans ?_
  gcongr
  have hleast : (8388608 : ℚ) ≤ n := by exact_mod_cast hn
  rw [h, Nat.cast_add, add_div, div_self hpos.ne']
  gcongr

end Quotient

/-! ### The product -/

section Product

variable {side canvas : Nat} {factor : ℚ}

/-- The shrunk side is the product without its fraction. -/
theorem shrink_le_of_lt {n : Nat} (hn : 1 ≤ n)
    (h : Binary32.round (Binary32.round canvas * factor) < n + 1) : shrink canvas factor ≤ n := by
  have hfloor : (Binary32.round (Binary32.round canvas * factor)).floor < n + 1 := by
    have := lt_of_le_of_lt (Rat.floor_le _) h
    exact_mod_cast this
  refine Nat.max_le.2 ⟨hn, (Nat.min_le_left _ _).trans ?_⟩
  omega

variable (hside : 0 < side) (hcanvas : 0 < canvas) (hfactor : 0 < factor)
  (hle : factor ≤ quotient side canvas)
include hside hcanvas hfactor hle

omit hfactor in
/-- The product is above the rounded side by at most the error of the quotient. -/
theorem product_le_mul :
    Binary32.round canvas * factor ≤ Binary32.round side * (1 + 1 / 2 ^ 24) := by
  have hcanvas' := round_pos hcanvas
  calc Binary32.round canvas * factor
      ≤ Binary32.round canvas *
          (Binary32.round side / Binary32.round canvas * (1 + 1 / 2 ^ 24)) := by
        gcongr
        exact hle.trans (quotient_le_mul hside hcanvas)
    _ = Binary32.round side * (1 + 1 / 2 ^ 24) := by field_simp

/-- However large the surface, a shrunk side is above it by at most one part in four million. -/
theorem shrink_le_mul : 4194304 * shrink canvas factor ≤ 4194305 * side := by
  have hpart : (side : ℚ) < 4194304 * ((side / 4194304 : Nat) + 1) := by
    exact_mod_cast Nat.lt_mul_div_succ side (show 0 < 4194304 by decide)
  have hshrunk : shrink canvas factor ≤ side + side / 4194304 := by
    refine shrink_le_of_lt (Nat.le_add_right_of_le hside) ?_
    calc Binary32.round (Binary32.round canvas * factor)
        ≤ Binary32.round canvas * factor * (1 + 1 / 2 ^ 24) :=
          Rounding.nearest_le_mul (by decide) (mul_pos (round_pos hcanvas) hfactor)
      _ ≤ Binary32.round side * (1 + 1 / 2 ^ 24) * (1 + 1 / 2 ^ 24) :=
          mul_le_mul_of_nonneg_right (product_le_mul hside hcanvas hle) (by norm_num)
      _ ≤ side * (1 + 1 / 2 ^ 24) * (1 + 1 / 2 ^ 24) * (1 + 1 / 2 ^ 24) := by
          gcongr
          exact round_le_mul hside
      _ ≤ side + side / 4194304 := by
          have hpos : (0 : ℚ) < side := Nat.cast_pos.2 hside
          linarith
      _ < (side + side / 4194304 : Nat) + 1 := by
          rw [Nat.cast_add]
          linarith
  omega

omit hside hfactor in
/-- What bounds the quotient bounds the product. -/
theorem product_le {n : Nat} {e : ℤ} (hcoefficient : Binary32.round canvas = n * 2 ^ e)
    {bound : ℚ} (h : quotient side canvas ≤ bound * 2 ^ (-e)) :
    Binary32.round canvas * factor ≤ n * bound := by
  have hunit : (0 : ℚ) < 2 ^ e := zpow_pos two_pos e
  calc Binary32.round canvas * factor
      ≤ Binary32.round canvas * (bound * 2 ^ (-e)) :=
        mul_le_mul_of_nonneg_left (hle.trans h) (round_pos hcanvas).le
    _ = n * bound := by
        rw [hcoefficient, zpow_neg]
        field_simp

omit hfactor in
/-- Up to the steady side, the product is at most half a pixel above the side of the surface, and
less where the side is odd. -/
theorem product_le_half (hlong : 8388608 ≤ side) (hsteady : side ≤ steadySide) :
    Binary32.round canvas * factor ≤ side + 1 / 2 ∧
      (side % 2 = 1 → Binary32.round canvas * factor < side + 1 / 2) := by
  have hexact : side ≤ 16777216 := hsteady.trans (by decide)
  obtain ⟨n, e, ⟨hleast, hgreatest⟩, hcoefficient⟩ :
      ∃ (n : Nat) (e : ℤ), (8388608 ≤ n ∧ n < 16777216) ∧ Binary32.round canvas = n * 2 ^ e :=
    Rounding.exists_coefficient (show 0 < 24 by decide) (Nat.cast_pos.2 hcanvas)
  have hpos : (0 : ℚ) < n := Nat.cast_pos.2 (by omega)
  rcases Nat.lt_or_ge side n with hlt | hge
  · have hproduct := product_le hcanvas hle hcoefficient
      (quotient_le_of_lt hside hcanvas hcoefficient hexact hlt)
    have hless : (n * (side / n + 1 / 33554432) : ℚ) < side + 1 / 2 := by
      have hlast : (n : ℚ) < 16777216 := by exact_mod_cast hgreatest
      rw [mul_add, mul_div_cancel₀ _ hpos.ne']
      linarith
    exact ⟨(hproduct.trans_lt hless).le, fun _ => hproduct.trans_lt hless⟩
  · obtain ⟨a, rfl⟩ := Nat.exists_eq_add_of_le hleast
    obtain ⟨d, rfl⟩ := Nat.exists_eq_add_of_le hge
    have hproduct := product_le hcanvas hle hcoefficient
      (quotient_le_of_add hside hcanvas hcoefficient hexact hleast rfl)
    have hover : ((8388608 + a : Nat) * (1 + d / 8388608) : ℚ) =
        (8388608 + a + d : Nat) + (a * d : Nat) / 8388608 := by
      push_cast
      ring
    rw [hover] at hproduct
    -- the product of the two parts is greatest where they are equal
    have hsquare : 4 * (a * d) ≤ (a + d) * (a + d) := by nlinarith [sq_nonneg ((a : ℤ) - d)]
    have hsum : a + d ≤ 4096 := by
      simp only [steadySide] at hsteady
      omega
    have hhalf : a * d ≤ 4194304 := by
      have := Nat.mul_le_mul hsum hsum
      omega
    have hhalf' : (a * d : Nat) ≤ (4194304 : ℚ) := by exact_mod_cast hhalf
    refine ⟨by linarith, fun hodd => ?_⟩
    have hless : a * d < 4194304 := by
      have hsum' : a + d ≤ 4095 := by omega
      have := Nat.mul_le_mul hsum' hsum'
      omega
    have hless' : (a * d : Nat) < (4194304 : ℚ) := by exact_mod_cast hless
    linarith

/-- Up to the steady side, a shrunk side is not longer than that of the surface. -/
theorem shrink_le (hsteady : side ≤ steadySide) : shrink canvas factor ≤ side := by
  have hproduct : 0 < Binary32.round canvas * factor := mul_pos (round_pos hcanvas) hfactor
  have hexact : side ≤ 16777216 := hsteady.trans (by decide)
  refine shrink_le_of_lt hside ?_
  rcases Nat.lt_or_ge side 8388608 with hshort | hlong
  · -- the middle between two pixels is a number of the format
    have hmiddle : ((2 * side + 1 : Nat) * 2 ^ (-1 : ℤ) : ℚ) = side + 1 / 2 := by
      rw [zpow_neg_one]
      push_cast
      ring
    have hhalf : Binary32.round canvas * factor ≤ (2 * side + 1 : Nat) * 2 ^ (-1 : ℤ) := by
      have hround := round_le hside hexact
      have hshort' : (side : ℚ) < 8388608 := by exact_mod_cast hshort
      have hmul := product_le_mul hside hcanvas hle
      rw [hmiddle]
      linarith
    have hround : Binary32.round (Binary32.round canvas * factor) ≤
        (2 * side + 1 : Nat) * 2 ^ (-1 : ℤ) :=
      Rounding.nearest_le_of_le (by decide) hproduct (show 2 * side + 1 ≤ 16777216 by omega) hhalf
    rw [hmiddle] at hround
    linarith
  · obtain ⟨hhalf, hodd⟩ := product_le_half hside hcanvas hle hlong hsteady
    have hround : Binary32.round (Binary32.round canvas * factor) ≤ side :=
      Rounding.nearest_le_of_le_half (show 0 < 24 by decide) hproduct hlong
        (lt_of_le_of_lt hsteady (by decide)) hhalf hodd
    linarith

end Product

section Small

variable {surfaceWidth surfaceHeight canvasWidth canvasHeight : Nat}

/-- A canvas that is wider or taller than the surface is shrunk by a factor that is no larger than
either quotient. -/
theorem scaledSize_of_small (hsurface : 0 < surfaceWidth ∧ 0 < surfaceHeight)
    (hcanvas : 0 < canvasWidth ∧ 0 < canvasHeight)
    (hsmall : surfaceWidth < canvasWidth ∨ surfaceHeight < canvasHeight) :
    ∃ factor, 0 < factor ∧
      (factor ≤ quotient surfaceWidth canvasWidth ∧ factor ≤ quotient surfaceHeight canvasHeight) ∧
      scaledSize surfaceWidth surfaceHeight canvasWidth canvasHeight =
        .ok (shrink canvasWidth factor, shrink canvasHeight factor) := by
  have hscale : ¬ 1 ≤ min (surfaceWidth / canvasWidth) (surfaceHeight / canvasHeight) := by
    rw [Nat.le_min, Nat.le_div_iff_mul_le hcanvas.1, Nat.le_div_iff_mul_le hcanvas.2]
    omega
  have hacross := quotient_pos hsurface.1 hcanvas.1
  have hdown := quotient_pos hsurface.2 hcanvas.2
  rw [scaledSize, if_neg hscale]
  dsimp only
  split
  case isTrue h => exact ⟨_, hacross, ⟨le_rfl, h⟩, rfl⟩
  case isFalse h => exact ⟨_, hdown, ⟨(not_le.1 h).le, le_rfl⟩, rfl⟩

/-- A surface that is smaller than the canvas, and of which no side is longer than the steady one,
shows the shrunk canvas. On any surface, what is shown has a pixel at least, lies within the surface
and in its middle. What is refused has been shrunk to a size that is larger than the surface, on a
side longer than the steady one and by at most one part in four million. -/
theorem shrunk_fits_or_overshoots (hsurface : 0 < surfaceWidth ∧ 0 < surfaceHeight)
    (hcanvas : 0 < canvasWidth ∧ 0 < canvasHeight)
    (hsmall : surfaceWidth < canvasWidth ∨ surfaceHeight < canvasHeight) :
    (surfaceWidth ≤ steadySide → surfaceHeight ≤ steadySide →
        ∃ v, fit surfaceWidth surfaceHeight canvasWidth canvasHeight = .ok v) ∧
      (∀ v, fit surfaceWidth surfaceHeight canvasWidth canvasHeight = .ok v →
        (1 ≤ v.width ∧ 1 ≤ v.height) ∧
          (v.x + v.width ≤ surfaceWidth ∧ v.y + v.height ≤ surfaceHeight) ∧
          v.Centred surfaceWidth surfaceHeight) ∧
      ∀ fault, fit surfaceWidth surfaceHeight canvasWidth canvasHeight = .error fault →
        fault = .overflow .subtract ∧
          ∃ width height,
            scaledSize surfaceWidth surfaceHeight canvasWidth canvasHeight = .ok (width, height) ∧
            (surfaceWidth < width ∧ steadySide < surfaceWidth ∨
              surfaceHeight < height ∧ steadySide < surfaceHeight) ∧
            4194304 * width ≤ 4194305 * surfaceWidth ∧
            4194304 * height ≤ 4194305 * surfaceHeight := by
  obtain ⟨factor, hfactor, ⟨hacross, hdown⟩, hsize⟩ := scaledSize_of_small hsurface hcanvas hsmall
  have hwidth := shrink_le hsurface.1 hcanvas.1 hfactor hacross
  have hheight := shrink_le hsurface.2 hcanvas.2 hfactor hdown
  rw [fit_of_scaledSize hsurface hcanvas hsize]
  by_cases hfits : shrink canvasWidth factor ≤ surfaceWidth ∧
      shrink canvasHeight factor ≤ surfaceHeight
  · obtain ⟨v, hv, ⟨hv', hv''⟩, hcentred⟩ := exists_centre hfits
    rw [hv]
    refine ⟨fun _ _ => ⟨v, rfl⟩, ?_, ?_⟩
    · rintro _ ⟨⟩
      refine ⟨⟨?_, ?_⟩, hcentred.within, hcentred⟩
      · exact hv' ▸ Nat.le_max_left 1 _
      · exact hv'' ▸ Nat.le_max_left 1 _
    · rintro fault ⟨⟩
  · rw [centre_of_larger hfits]
    refine ⟨fun hsteady hsteady' => absurd ⟨hwidth hsteady, hheight hsteady'⟩ hfits, ?_, ?_⟩
    · rintro v ⟨⟩
    rintro _ ⟨⟩
    refine ⟨rfl, _, _, hsize, ?_, ?_, ?_⟩
    · omega
    · exact shrink_le_mul hsurface.1 hcanvas.1 hfactor hacross
    · exact shrink_le_mul hsurface.2 hcanvas.2 hfactor hdown

/-- The steady side itself, with a canvas that is shrunk to more than a side one pixel longer. -/
theorem shrunk_fits_or_overshoots_steadySide :
    ∃ v, fit steadySide 1 16781224 1 = .ok v ∧ (1 ≤ v.width ∧ 1 ≤ v.height) ∧
      v.x + v.width ≤ steadySide ∧ v.y + v.height ≤ 1 := by
  have hsurface : 0 < steadySide ∧ 0 < 1 := by decide
  have hcanvas : 0 < 16781224 ∧ 0 < 1 := by decide
  obtain ⟨hfits, hwithin, -⟩ := shrunk_fits_or_overshoots hsurface hcanvas (.inl (by decide))
  obtain ⟨v, hv⟩ := hfits (Nat.le_refl _) (by decide)
  obtain ⟨hsides, hedges, -⟩ := hwithin v hv
  exact ⟨v, hv, hsides, hedges⟩

/-- On a surface one pixel longer than the steady side there is a canvas that is shrunk to a pixel
more than the surface has, and the viewport is refused. -/
theorem shrunk_past_edge :
    steadySide + 1 < 16781224 ∧
      scaledSize (steadySide + 1) 1 16781224 1 = .ok (steadySide + 2, 1) ∧
      fit (steadySide + 1) 1 16781224 1 = .error (.overflow .subtract) := by
  decide +kernel

end Small

end Viewport

end Mosaic
