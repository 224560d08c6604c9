import Mathlib.Order.Bounds.Basic
import Mosaic.Gpu.Viewport

/-!
# The viewport of a large surface

A surface that has room for the canvas shows it at the greatest whole multiple of its size that fits
on both sides (`isGreatest_scale`). The multiple is no larger than the surface, so neither of the
products overflows and there is always room for the margins, which `Centred` compares.
-/

namespace Mosaic

namespace Viewport

/-- The rectangle lies in the middle of a surface of the given size: on each side, the margin behind
it is as wide as the one before it or one pixel wider. -/
structure Centred (v : Viewport) (surfaceWidth surfaceHeight : Nat) : Prop where
  across : ∃ odd ≤ 1, v.x + v.width + (v.x + odd) = surfaceWidth
  down : ∃ odd ≤ 1, v.y + v.height + (v.y + odd) = surfaceHeight

section Centre

variable {surfaceWidth surfaceHeight width height : Nat} {v : Viewport}

theorem Centred.within (h : v.Centred surfaceWidth surfaceHeight) :
    v.x + v.width ≤ surfaceWidth ∧ v.y + v.height ≤ surfaceHeight := by
  obtain ⟨⟨_, -, hacross⟩, _, -, hdown⟩ := h
  omega

/-- A rectangle that is no larger than the surface can be put in its middle. -/
theorem exists_centre (h : width ≤ surfaceWidth ∧ height ≤ surfaceHeight) :
    ∃ v, centre surfaceWidth surfaceHeight width height = .ok v ∧
      (v.width = width ∧ v.height = height) ∧ v.Centred surfaceWidth surfaceHeight := by
  refine ⟨⟨(surfaceWidth - width) / 2, (surfaceHeight - height) / 2, width, height⟩, ?_,
    ⟨rfl, rfl⟩, ⟨(surfaceWidth - width) % 2, ?_⟩, (surfaceHeight - height) % 2, ?_⟩
  · rw [centre, Bounded.sub_of_le h.1, Bounded.sub_of_le h.2]
    rfl
  · dsimp only
    omega
  · dsimp only
    omega

/-- A rectangle that is larger than the surface is refused. -/
theorem centre_of_larger (h : ¬ (width ≤ surfaceWidth ∧ height ≤ surfaceHeight)) :
    centre surfaceWidth surfaceHeight width height = .error (.overflow .subtract) := by
  unfold centre Bounded.sub
  by_cases hwidth : width ≤ surfaceWidth
  · rw [if_pos hwidth, if_neg (not_and.1 h hwidth)]
    rfl
  · rw [if_neg hwidth]
    rfl

end Centre

section Multiple

variable {surfaceWidth surfaceHeight canvasWidth canvasHeight : Nat}

/-- Where no side is empty, the canvas is given a size and put in the middle. -/
theorem fit_of_scaledSize (hsurface : 0 < surfaceWidth ∧ 0 < surfaceHeight)
    (hcanvas : 0 < canvasWidth ∧ 0 < canvasHeight) {width height : Nat}
    (h : scaledSize surfaceWidth surfaceHeight canvasWidth canvasHeight = .ok (width, height)) :
    fit surfaceWidth surfaceHeight canvasWidth canvasHeight =
      centre surfaceWidth surfaceHeight width height := by
  rw [fit, if_neg (by omega), h]
  rfl

/-- The smaller quotient is the greatest multiple that fits on both sides. -/
theorem isGreatest_scale (hcanvas : 0 < canvasWidth ∧ 0 < canvasHeight) :
    IsGreatest {k | k * canvasWidth ≤ surfaceWidth ∧ k * canvasHeight ≤ surfaceHeight}
      (min (surfaceWidth / canvasWidth) (surfaceHeight / canvasHeight)) := by
  have hfits : ∀ k, k * canvasWidth ≤ surfaceWidth ∧ k * canvasHeight ≤ surfaceHeight ↔
      k ≤ min (surfaceWidth / canvasWidth) (surfaceHeight / canvasHeight) := by
    intro k
    rw [Nat.le_min, Nat.le_div_iff_mul_le hcanvas.1, Nat.le_div_iff_mul_le hcanvas.2]
  exact ⟨(hfits _).2 (Nat.le_refl _), fun k hk => (hfits k).1 hk⟩

/-- A canvas is multiplied without overflow, since the surface has room for the products. -/
theorem scaledSize_of_room
    (hscale : 1 ≤ min (surfaceWidth / canvasWidth) (surfaceHeight / canvasHeight))
    (hcanvas : 0 < canvasWidth ∧ 0 < canvasHeight)
    (hsurfaceWidth : surfaceWidth < Bounded.Width.bits32.count)
    (hsurfaceHeight : surfaceHeight < Bounded.Width.bits32.count) :
    scaledSize surfaceWidth surfaceHeight canvasWidth canvasHeight =
      .ok (min (surfaceWidth / canvasWidth) (surfaceHeight / canvasHeight) * canvasWidth,
        min (surfaceWidth / canvasWidth) (surfaceHeight / canvasHeight) * canvasHeight) := by
  obtain ⟨hwidth, hheight⟩ := (isGreatest_scale hcanvas).1
  rw [scaledSize]
  generalize min (surfaceWidth / canvasWidth) (surfaceHeight / canvasHeight) = k at *
  have hacross : Bounded.mul .bits32 canvasWidth k = .ok (canvasWidth * k) :=
    Bounded.unsigned_of_lt (by rw [Nat.mul_comm]; omega)
  have hdown : Bounded.mul .bits32 canvasHeight k = .ok (canvasHeight * k) :=
    Bounded.unsigned_of_lt (by rw [Nat.mul_comm]; omega)
  rw [if_pos hscale, hacross, hdown, Nat.mul_comm k, Nat.mul_comm k]
  rfl

/-- A surface with room for the canvas shows it at a whole multiple of its size, the greatest one
that fits on both sides, within the surface and in its middle. -/
theorem fit_is_greatest_multiple (hwidth : 1 ≤ canvasWidth ∧ canvasWidth ≤ surfaceWidth)
    (hheight : 1 ≤ canvasHeight ∧ canvasHeight ≤ surfaceHeight)
    (hsurfaceWidth : surfaceWidth < Bounded.Width.bits32.count)
    (hsurfaceHeight : surfaceHeight < Bounded.Width.bits32.count) :
    ∃ k v, fit surfaceWidth surfaceHeight canvasWidth canvasHeight = .ok v ∧
      (v.width = k * canvasWidth ∧ v.height = k * canvasHeight) ∧
      1 ≤ k ∧ IsGreatest {k | k * canvasWidth ≤ surfaceWidth ∧ k * canvasHeight ≤ surfaceHeight} k ∧
      (v.x + v.width ≤ surfaceWidth ∧ v.y + v.height ≤ surfaceHeight) ∧
      v.Centred surfaceWidth surfaceHeight := by
  have hcanvas : 0 < canvasWidth ∧ 0 < canvasHeight := ⟨hwidth.1, hheight.1⟩
  have hgreatest : IsGreatest
      {k | k * canvasWidth ≤ surfaceWidth ∧ k * canvasHeight ≤ surfaceHeight} _ :=
    isGreatest_scale hcanvas
  have hscale : 1 ≤ min (surfaceWidth / canvasWidth) (surfaceHeight / canvasHeight) :=
    hgreatest.2 ⟨by omega, by omega⟩
  have hsize := scaledSize_of_room hscale hcanvas hsurfaceWidth hsurfaceHeight
  obtain ⟨v, hv, hsides, hcentred⟩ := exists_centre hgreatest.1
  refine ⟨_, v, ?_, hsides, hscale, hgreatest, hcentred.within, hcentred⟩
  rw [fit_of_scaledSize (by omega) hcanvas hsize, hv]

theorem fit_is_greatest_multiple_largeSurface :
    fit 4294967295 4294967294 2 3 = .ok ⟨715827883, 1, 2863311528, 4294967292⟩ ∧
      IsGreatest {k | k * 2 ≤ 4294967295 ∧ k * 3 ≤ 4294967294} 1431655764 := by
  have hfit : fit 4294967295 4294967294 2 3 = .ok ⟨715827883, 1, 2863311528, 4294967292⟩ := by
    decide
  have hacross : 1 ≤ 2 ∧ 2 ≤ 4294967295 := by decide
  have hdown : 1 ≤ 3 ∧ 3 ≤ 4294967294 := by decide
  obtain ⟨k, v, hv, ⟨hwidth, -⟩, -, hgreatest, -⟩ :=
    fit_is_greatest_multiple hacross hdown (by decide) (by decide)
  cases hfit.symm.trans hv
  have hdouble : 2863311528 = k * 2 := hwidth
  obtain rfl : k = 1431655764 := by omega
  exact ⟨hfit, hgreatest⟩

end Multiple

end Viewport

end Mosaic
