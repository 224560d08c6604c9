import Mathlib.Data.Fintype.Basic
import Mosaic.Maze.Actor

/-!
# Corridors of the maze

An actor is in a corridor when all tiles that its square of pixels touches are open, and when it
sits between two tiles only in the direction in which it moves. An actor in a corridor is one pixel
further on in a corridor again, provided that it moves to an open tile where it sits on one
(`Actor.InCorridor.stepped`). There is always such a tile: no open tile of the maze is closed in on
all sides.
-/

namespace Mosaic

namespace Level

theorem mem_of_isOpen {p : Point} (h : isOpen p = true) :
    (0 ≤ p.x ∧ p.x < columns) ∧ 0 ≤ p.y ∧ p.y < rows := by
  unfold isOpen at? at h
  by_cases hp : p.x < 0 ∨ p.y < 0 ∨ (columns : Int) ≤ p.x ∨ (rows : Int) ≤ p.y
  · rw [if_pos hp] at h
    cases h
  · omega

theorem exists_open_neighbour_nat :
    ∀ x < columns, ∀ y < rows, isOpen ⟨x, y⟩ = true →
      ∃ h ∈ Heading.all, isOpen ⟨x + h.delta.x, y + h.delta.y⟩ = true := by decide +kernel

/-- An open tile has an open neighbour. -/
theorem exists_open_neighbour {p : Point} (h : isOpen p = true) :
    ∃ heading : Heading, isOpen ⟨p.x + heading.delta.x, p.y + heading.delta.y⟩ = true := by
  obtain ⟨⟨hx, hx'⟩, hy, hy'⟩ := mem_of_isOpen h
  obtain ⟨x, y⟩ := p
  obtain ⟨x, rfl⟩ := Int.eq_ofNat_of_zero_le hx
  obtain ⟨y, rfl⟩ := Int.eq_ofNat_of_zero_le hy
  obtain ⟨heading, -, hopen⟩ :=
    exists_open_neighbour_nat x (Int.ofNat_lt.1 hx') y (Int.ofNat_lt.1 hy') h
  exact ⟨heading, hopen⟩

end Level

namespace Actor

/-- All tiles that the square of the actor touches are open, and where it is not on a tile it moves
along the axis on which it sits between two. -/
structure InCorridor (a : Actor) : Prop where
  isOpen : ∀ x y : Int, a.pos.x ≤ x → x < a.pos.x + tileSide → a.pos.y ≤ y →
    y < a.pos.y + tileSide → Level.isOpen ⟨x / tileSide, y / tileSide⟩ = true
  onAxis : tileSide ∣ a.pos.x ∨ tileSide ∣ a.pos.y
  horizontal : ¬ tileSide ∣ a.pos.x → a.heading = .left ∨ a.heading = .right
  vertical : ¬ tileSide ∣ a.pos.y → a.heading = .up ∨ a.heading = .down

theorem tileSide_eq : tileSide = 8 := rfl

theorem aligned_iff {a : Actor} : a.aligned = true ↔ tileSide ∣ a.pos.x ∧ tileSide ∣ a.pos.y := by
  simp only [aligned, decide_eq_true_eq, Int.dvd_iff_emod_eq_zero]

theorem InCorridor.isOpen_tile {a : Actor} (h : a.InCorridor) : Level.isOpen a.tile = true :=
  h.isOpen a.pos.x a.pos.y (Int.le_refl _) (by rw [tileSide_eq]; omega) (Int.le_refl _)
    (by rw [tileSide_eq]; omega)

/-- The square of an actor touches the tile of its corner and, on each axis on which it is between
two tiles, the next one. -/
theorem inCorridor_of_isOpen {a : Actor} (htile : Level.isOpen a.tile = true)
    (haxis : tileSide ∣ a.pos.x ∨ tileSide ∣ a.pos.y)
    (hx : ¬ tileSide ∣ a.pos.x →
      Level.isOpen (a.neighbour .right) = true ∧ (a.heading = .left ∨ a.heading = .right))
    (hy : ¬ tileSide ∣ a.pos.y →
      Level.isOpen (a.neighbour .down) = true ∧ (a.heading = .up ∨ a.heading = .down)) :
    a.InCorridor := by
  refine ⟨?_, haxis, fun h => (hx h).2, fun h => (hy h).2⟩
  intro x y hx₀ hx₁ hy₀ hy₁
  simp only [tile, neighbour, Heading.delta, tileSide_eq] at *
  by_cases hxtile : x / 8 = a.pos.x / 8
  · by_cases hytile : y / 8 = a.pos.y / 8
    · rw [hxtile, hytile]
      exact htile
    · have hynext : y / 8 = a.pos.y / 8 + 1 := by omega
      have hopen := (hy (by omega)).1
      rw [Int.add_zero] at hopen
      rw [hxtile, hynext]
      exact hopen
  · have hxnext : x / 8 = a.pos.x / 8 + 1 := by omega
    have hytile : y / 8 = a.pos.y / 8 := by omega
    have hopen := (hx (by omega)).1
    rw [Int.add_zero] at hopen
    rw [hxnext, hytile]
    exact hopen

theorem inCorridor_onTile {sprite : SpriteId} {tile : Point} {heading : Heading}
    (h : Level.isOpen tile = true) : (onTile sprite tile heading).InCorridor := by
  have hx : tileSide ∣ tile.x * tileSide := Int.dvd_mul_left _ _
  have hy : tileSide ∣ tile.y * tileSide := Int.dvd_mul_left _ _
  refine inCorridor_of_isOpen ?_ (.inl hx) (absurd hx) (absurd hy)
  have htile : (onTile sprite tile heading).tile = tile := by
    simp only [Actor.tile, onTile, tileSide_eq]
    rw [Int.mul_ediv_cancel _ (by decide), Int.mul_ediv_cancel _ (by decide)]
  rw [htile]
  exact h

/-- An actor on a tile may turn to any side. -/
theorem InCorridor.turned {a : Actor} (h : a.InCorridor) (haligned : a.aligned = true)
    (heading : Heading) : InCorridor { a with heading := heading } where
  isOpen := h.isOpen
  onAxis := h.onAxis
  horizontal hx := absurd (aligned_iff.1 haligned).1 hx
  vertical hy := absurd (aligned_iff.1 haligned).2 hy

/-- Some side of an actor on a tile is open. -/
theorem InCorridor.exists_open {a : Actor} (h : a.InCorridor) :
    ∃ heading, Level.isOpen (a.neighbour heading) = true :=
  Level.exists_open_neighbour h.isOpen_tile

/-- The actor one pixel further on. -/
def stepped (a : Actor) : Actor :=
  { a with pos := ⟨a.pos.x + a.heading.delta.x, a.pos.y + a.heading.delta.y⟩ }

theorem InCorridor.moved_eq {a : Actor} (h : a.InCorridor) : a.moved = .ok a.stepped := by
  obtain ⟨⟨hx, hx'⟩, hy, hy'⟩ := Level.mem_of_isOpen h.isOpen_tile
  simp only [tile, tileSide_eq, Level.columns, Level.rows] at hx hx' hy hy'
  have hfits : Point.Fits ⟨a.pos.x + a.heading.delta.x, a.pos.y + a.heading.delta.y⟩ := by
    cases hheading : a.heading <;>
      simp only [Point.Fits, Bounded.FitsSigned, Bounded.minSigned, Bounded.maxSigned,
        Heading.delta] <;> omega
  rw [moved, Point.add_of_fits hfits]
  rfl

theorem InCorridor.dvd_of_horizontal {a : Actor} (h : a.InCorridor)
    (hheading : a.heading = .left ∨ a.heading = .right) : tileSide ∣ a.pos.y := by
  by_contra hy
  rcases h.vertical hy with hup | hdown
  · rw [hup] at hheading
    rcases hheading with hleft | hright
    · cases hleft
    · cases hright
  · rw [hdown] at hheading
    rcases hheading with hleft | hright
    · cases hleft
    · cases hright

theorem InCorridor.dvd_of_vertical {a : Actor} (h : a.InCorridor)
    (hheading : a.heading = .up ∨ a.heading = .down) : tileSide ∣ a.pos.x := by
  by_contra hx
  rcases h.horizontal hx with hleft | hright
  · rw [hleft] at hheading
    rcases hheading with hup | hdown
    · cases hup
    · cases hdown
  · rw [hright] at hheading
    rcases hheading with hup | hdown
    · cases hup
    · cases hdown

/-- An actor on a tile that takes a step touches its tile and the neighbour that it moves to. -/
theorem InCorridor.isOpen_stepped_of_aligned {a : Actor} (h : a.InCorridor)
    (haligned : a.aligned = true) (hopen : Level.isOpen (a.neighbour a.heading) = true) {x y : Int}
    (hx : a.stepped.pos.x ≤ x) (hx' : x < a.stepped.pos.x + tileSide)
    (hy : a.stepped.pos.y ≤ y) (hy' : y < a.stepped.pos.y + tileSide) :
    Level.isOpen ⟨x / tileSide, y / tileSide⟩ = true := by
  obtain ⟨hxdvd, hydvd⟩ := aligned_iff.1 haligned
  have hbefore := h.isOpen x y
  by_cases hbox : (a.pos.x ≤ x ∧ x < a.pos.x + tileSide) ∧ a.pos.y ≤ y ∧ y < a.pos.y + tileSide
  · exact hbefore hbox.1.1 hbox.1.2 hbox.2.1 hbox.2.2
  · have hnext : (⟨x / tileSide, y / tileSide⟩ : Point) = a.neighbour a.heading := by
      rw [tileSide_eq] at *
      cases hheading : a.heading <;>
        simp only [stepped, hheading, Heading.delta] at hx hx' hy hy' <;>
        simp only [neighbour, tile, tileSide_eq, Heading.delta, Point.mk.injEq] <;>
        omega
    rw [hnext]
    exact hopen

/-- An actor between two tiles that takes a step touches no tile that it did not touch before. -/
theorem InCorridor.isOpen_stepped_of_not_aligned {a : Actor} (h : a.InCorridor)
    (haligned : a.aligned ≠ true) {x y : Int}
    (hx : a.stepped.pos.x ≤ x) (hx' : x < a.stepped.pos.x + tileSide)
    (hy : a.stepped.pos.y ≤ y) (hy' : y < a.stepped.pos.y + tileSide) :
    Level.isOpen ⟨x / tileSide, y / tileSide⟩ = true := by
  have hhorizontal := h.dvd_of_horizontal
  have hvertical := h.dvd_of_vertical
  have hdvd : ¬ (tileSide ∣ a.pos.x ∧ tileSide ∣ a.pos.y) := fun hd => haligned (aligned_iff.2 hd)
  -- the pixel nearest to `(x, y)` in the square before the step is on the same tile
  have hbefore := h.isOpen (max a.pos.x (min x (a.pos.x + 7))) (max a.pos.y (min y (a.pos.y + 7)))
  rw [tileSide_eq] at *
  have hxtile : max a.pos.x (min x (a.pos.x + 7)) / 8 = x / 8 := by
    cases hheading : a.heading <;>
      simp only [Actor.stepped, hheading, Heading.delta, reduceCtorEq, or_self, or_true, or_false,
        forall_const, IsEmpty.forall_iff] at hx hx' hhorizontal hvertical <;>
      omega
  have hytile : max a.pos.y (min y (a.pos.y + 7)) / 8 = y / 8 := by
    cases hheading : a.heading <;>
      simp only [Actor.stepped, hheading, Heading.delta, reduceCtorEq, or_self, or_true, or_false,
        forall_const, IsEmpty.forall_iff] at hy hy' hhorizontal hvertical <;>
      omega
  rw [hxtile, hytile] at hbefore
  exact hbefore (by omega) (by omega) (by omega) (by omega)

/-- An actor in a corridor stays in one when it steps to an open tile. -/
theorem InCorridor.stepped {a : Actor} (h : a.InCorridor)
    (hahead : a.aligned = true → Level.isOpen (a.neighbour a.heading) = true) :
    a.stepped.InCorridor := by
  have hhorizontal := h.dvd_of_horizontal
  have hvertical := h.dvd_of_vertical
  refine ⟨fun x y => ?_, ?_, ?_, ?_⟩
  · by_cases haligned : a.aligned = true
    · exact h.isOpen_stepped_of_aligned haligned (hahead haligned)
    · exact h.isOpen_stepped_of_not_aligned haligned
  all_goals
    rw [tileSide_eq] at *
    cases hheading : a.heading <;>
      simp only [Actor.stepped, hheading, Heading.delta, reduceCtorEq, or_self, or_true, or_false,
        forall_const, IsEmpty.forall_iff, implies_true] at hhorizontal hvertical ⊢ <;>
      omega

end Actor

end Mosaic
