import Mathlib.Data.Finset.Prod
import Mathlib.Data.Finset.Range
import Mathlib.Data.Set.Card
import Mosaic.Geometry.Rect

/-!
# The common part of two rectangles

The edges of a rectangle are cut off at the greatest coordinate, and `Rect.clip` cuts off the width
it finds as well. For rectangles of signed numbers none of this shows: the common part covers just
the points of both, and its area is their number. It is moreover in a normal form, `Rect.Exact`, in
which a rectangle is known from its points, so the laws of intersection hold of `clip` as equations.
-/

namespace Mosaic

namespace Rect

variable {a b c d r s : Rect} {p : Point}

/-! ### The normal form -/

/-- The rectangle is `empty`, or it has a point and neither of its far edges is cut off. -/
def Exact (r : Rect) : Prop :=
  r = empty ∨ (0 < r.width ∧ r.right = r.x + r.width) ∧ 0 < r.height ∧ r.bottom = r.y + r.height

theorem exact_empty : empty.Exact := .inl rfl

theorem fits_empty : empty.Fits := ⟨by decide, by decide, by decide, by decide⟩

/-- The far edges of a rectangle in normal form are where its size puts them. -/
theorem Exact.edges (h : r.Exact) : r.right = r.x + r.width ∧ r.bottom = r.y + r.height := by
  obtain rfl | ⟨⟨-, hright⟩, -, hbottom⟩ := h
  · exact ⟨rfl, rfl⟩
  · exact ⟨hright, hbottom⟩

theorem Exact.size_nonneg (h : r.Exact) : 0 ≤ r.width ∧ 0 ≤ r.height := by
  obtain rfl | ⟨⟨hwidth, -⟩, hheight, -⟩ := h
  · exact ⟨Int.le_refl 0, Int.le_refl 0⟩
  · exact ⟨Int.le_of_lt hwidth, Int.le_of_lt hheight⟩

theorem mem_iff_of_exact (h : r.Exact) :
    p ∈ r ↔ (r.x ≤ p.x ∧ p.x < r.x + r.width) ∧ r.y ≤ p.y ∧ p.y < r.y + r.height := by
  rw [mem_iff, h.edges.1, h.edges.2]

/-- A rectangle in normal form that is not empty has its first and its last point. -/
theorem Exact.corners (h : r.Exact) (hne : r ≠ empty) :
    (⟨r.x, r.y⟩ : Point) ∈ r ∧ (⟨r.x + r.width - 1, r.y + r.height - 1⟩ : Point) ∈ r := by
  have hsize := h.resolve_left hne
  simp only [mem_iff_of_exact h]
  omega

theorem fits_of_mem (h : r.Fits) (hp : p ∈ r) : p.Fits := by
  obtain ⟨⟨hx, hright⟩, hy, hbottom⟩ := mem_iff.1 hp
  have hedges : Bounded.FitsSigned r.right ∧ Bounded.FitsSigned r.bottom :=
    ⟨Bounded.fitsSigned_clampSigned _, Bounded.fitsSigned_clampSigned _⟩
  simp only [Fits, Point.Fits, Bounded.FitsSigned] at *
  omega

/-- In normal form a rectangle without points is `empty`. -/
theorem Exact.eq_empty (h : r.Exact) (hfits : r.Fits) (hp : ∀ p : Point, p.Fits → p ∉ r) :
    r = empty := by
  by_contra hne
  have hcorner := (h.corners hne).1
  exact hp _ (fits_of_mem hfits hcorner) hcorner

/-- In normal form a rectangle is known from its points. -/
theorem Exact.ext (hr : r.Exact) (hs : s.Exact) (hr' : r.Fits) (hs' : s.Fits)
    (h : ∀ p : Point, p.Fits → (p ∈ r ↔ p ∈ s)) : r = s := by
  have hmem : ∀ p : Point, p ∈ r ↔ p ∈ s := fun p =>
    ⟨fun hp => (h p (fits_of_mem hr' hp)).1 hp, fun hp => (h p (fits_of_mem hs' hp)).2 hp⟩
  by_cases hempty : r = empty
  · subst hempty
    exact (hs.eq_empty hs' fun p _ hp => not_mem_empty p ((hmem p).2 hp)).symm
  · by_cases hempty' : s = empty
    · subst hempty'
      exact hr.eq_empty hr' fun p _ hp => not_mem_empty p ((hmem p).1 hp)
    · -- the first and the last point of each lie in the other
      obtain ⟨hfirst, hlast⟩ := hr.corners hempty
      obtain ⟨hfirst', hlast'⟩ := hs.corners hempty'
      rw [hmem, mem_iff_of_exact hs] at hfirst hlast
      rw [← hmem, mem_iff_of_exact hr] at hfirst' hlast'
      rcases r with ⟨x, y, width, height⟩
      rcases s with ⟨x', y', width', height'⟩
      simp only [mk.injEq] at *
      omega

/-! ### The area -/

theorem Exact.area_eq (h : r.Exact) : r.area = r.width.toNat * r.height.toNat := by
  obtain rfl | ⟨⟨hwidth, -⟩, hheight, -⟩ := h
  · rfl
  · have hne : ¬ r.isEmpty = true := by
      rw [isEmpty_iff]
      omega
    exact if_neg hne

/-- The product of the sides is found without overflow. -/
theorem Exact.mul_sides (h : r.Exact) (hfits : r.Fits) :
    Bounded.mul .bits64 r.width.toNat r.height.toNat = .ok r.area := by
  obtain ⟨-, -, ⟨-, hwidth⟩, -, hheight⟩ := hfits
  have hlt : r.width.toNat * r.height.toNat < 2147483648 * 2147483648 := by
    simp only [Bounded.maxSigned] at hwidth hheight
    exact Nat.mul_lt_mul'' (by omega) (by omega)
  rw [h.area_eq]
  exact Bounded.unsigned_of_lt (Nat.lt_trans hlt (by decide))

/-- The point that stands `offset.1` columns and `offset.2` rows behind the first one. -/
def pointAt (r : Rect) (offset : Nat × Nat) : Point :=
  ⟨r.x + (offset.1 : Nat), r.y + (offset.2 : Nat)⟩

theorem pointAt_injective (r : Rect) : Function.Injective r.pointAt := by
  intro offset offset' h
  simp only [pointAt, Point.mk.injEq] at h
  exact Prod.ext (by omega) (by omega)

/-- The points of a rectangle whose far edges are not cut off. -/
def points (r : Rect) : Finset Point :=
  (Finset.range r.width.toNat ×ˢ Finset.range r.height.toNat).map ⟨r.pointAt, r.pointAt_injective⟩

theorem card_points (r : Rect) : r.points.card = r.width.toNat * r.height.toNat := by
  rw [points, Finset.card_map, Finset.card_product, Finset.card_range, Finset.card_range]

theorem mem_points (h : r.Exact) : p ∈ r.points ↔ p ∈ r := by
  rw [mem_iff_of_exact h]
  simp only [points, Finset.mem_map, Finset.mem_product, Finset.mem_range, Prod.exists,
    Function.Embedding.coeFn_mk, pointAt]
  constructor
  · rintro ⟨column, row, ⟨hcolumn, hrow⟩, rfl⟩
    dsimp only
    omega
  · rintro ⟨⟨hx, hx'⟩, hy, hy'⟩
    have hcolumn : r.x + ((p.x - r.x).toNat : Int) = p.x := by omega
    have hrow : r.y + ((p.y - r.y).toNat : Int) = p.y := by omega
    exact ⟨(p.x - r.x).toNat, (p.y - r.y).toNat, ⟨by omega, by omega⟩,
      congrArg₂ Point.mk hcolumn hrow⟩

/-- In normal form the area is the number of points. -/
theorem Exact.encard_eq (h : r.Exact) : {p : Point | p ∈ r}.encard = r.area := by
  have hset : {p : Point | p ∈ r} = r.points := Set.ext fun p => (mem_points h).symm
  rw [hset, Set.encard_coe_eq_coe_finsetCard, card_points, h.area_eq]

/-! ### The common part -/

/-- There is room between the nearer far edges and the farther near edges. -/
def Meets (a b : Rect) : Prop :=
  max a.x b.x < min a.right b.right ∧ max a.y b.y < min a.bottom b.bottom

theorem clip_of_not_meets (h : ¬ a.Meets b) : a.clip b = empty := by
  have hempty : (upTo (max a.x b.x) (max a.y b.y) (min a.right b.right)
      (min a.bottom b.bottom)).isEmpty = true := by
    simp only [Meets, isEmpty_iff, upTo, Bounded.clampSigned, Bounded.minSigned,
      Bounded.maxSigned] at *
    omega
  exact if_pos hempty

/-- Along one direction, what two sides have in common is no longer than the first of them, and so
is a signed number, as is its end. -/
theorem common_fits {start length start' edge : Int} (h : Bounded.FitsSigned start)
    (h' : Bounded.FitsSigned length)
    (hlt : max start start' < min (Bounded.clampSigned (start + length)) edge) :
    Bounded.FitsSigned (min (Bounded.clampSigned (start + length)) edge) ∧
      Bounded.FitsSigned
        (min (Bounded.clampSigned (start + length)) edge - max start start') := by
  simp only [Bounded.FitsSigned, Bounded.clampSigned, Bounded.minSigned, Bounded.maxSigned] at *
  omega

theorem clip_of_meets (h : a.Fits) (hmeets : a.Meets b) :
    a.clip b = ⟨max a.x b.x, max a.y b.y, min a.right b.right - max a.x b.x,
      min a.bottom b.bottom - max a.y b.y⟩ := by
  obtain ⟨hx, hy, hwidth, hheight⟩ := h
  obtain ⟨hcolumns, hrows⟩ := hmeets
  have hupTo : upTo (max a.x b.x) (max a.y b.y) (min a.right b.right) (min a.bottom b.bottom) =
      ⟨max a.x b.x, max a.y b.y, min a.right b.right - max a.x b.x,
        min a.bottom b.bottom - max a.y b.y⟩ :=
    congrArg₂ (Rect.mk _ _)
      (Bounded.clampSigned_of_fits (common_fits hx hwidth hcolumns).2)
      (Bounded.clampSigned_of_fits (common_fits hy hheight hrows).2)
  unfold clip
  dsimp only
  rw [hupTo, if_neg]
  rw [isEmpty_iff]
  dsimp only
  omega

/-- The common part is in normal form. -/
theorem exact_clip (h : a.Fits) (b : Rect) : (a.clip b).Exact := by
  by_cases hmeets : a.Meets b
  · have hright := (common_fits h.1 h.2.2.1 hmeets.1).1
    have hbottom := (common_fits h.2.1 h.2.2.2 hmeets.2).1
    have hedge : ∀ {start edge : Int}, Bounded.FitsSigned edge →
        Bounded.clampSigned (start + (edge - start)) = start + (edge - start) := by
      intro start edge hedge
      rw [add_sub_cancel]
      exact Bounded.clampSigned_of_fits hedge
    rw [clip_of_meets h hmeets]
    exact .inr ⟨⟨Int.sub_pos_of_lt hmeets.1, hedge hright⟩,
      Int.sub_pos_of_lt hmeets.2, hedge hbottom⟩
  · rw [clip_of_not_meets hmeets]
    exact exact_empty

/-- The common part has the points of both rectangles. -/
theorem mem_clip (h : a.Fits) : p ∈ a.clip b ↔ p ∈ a ∧ p ∈ b := by
  rw [mem_iff_of_exact (exact_clip h b), mem_iff, mem_iff]
  by_cases hmeets : a.Meets b
  · rw [clip_of_meets h hmeets]
    dsimp only
    omega
  · rw [clip_of_not_meets hmeets]
    simp only [Meets, empty] at *
    omega

theorem fits_clip (ha : a.Fits) (hb : b.Fits) : (a.clip b).Fits := by
  by_cases hmeets : a.Meets b
  · have hmax : ∀ {n m : Int}, Bounded.FitsSigned n → Bounded.FitsSigned m →
        Bounded.FitsSigned (max n m) := by
      intro n m hn hm
      rcases max_choice n m with hmax | hmax <;> rwa [hmax]
    rw [clip_of_meets ha hmeets]
    exact ⟨hmax ha.1 hb.1, hmax ha.2.1 hb.2.1, (common_fits ha.1 ha.2.2.1 hmeets.1).2,
      (common_fits ha.2.1 ha.2.2.2 hmeets.2).2⟩
  · rw [clip_of_not_meets hmeets]
    exact fits_empty

/-- Two common parts with the same points are the same rectangle. -/
theorem clip_eq_clip (ha : a.Fits) (hb : b.Fits) (hc : c.Fits) (hd : d.Fits)
    (h : ∀ p : Point, p.Fits → (p ∈ a.clip b ↔ p ∈ c.clip d)) : a.clip b = c.clip d :=
  (exact_clip ha b).ext (exact_clip hc d) (fits_clip ha hb) (fits_clip hc hd) h

/-- The common part of two rectangles covers the points that both cover, and there are as many of
them as its area says. Its far edges are where its size puts them, and the product of its sides does
not overflow. The rectangle depends on its points alone, so it is `empty` where there are none, and
the laws of intersection hold. -/
theorem clip_is_intersection (ha : a.Fits) (hb : b.Fits) :
    (∀ p : Point, p ∈ a.clip b ↔ p ∈ a ∧ p ∈ b) ∧
      {p : Point | p ∈ a ∧ p ∈ b}.encard = (a.clip b).area ∧
      ((a.clip b).Fits ∧
        (a.clip b).right = (a.clip b).x + (a.clip b).width ∧
        (a.clip b).bottom = (a.clip b).y + (a.clip b).height ∧
        Bounded.mul .bits64 (a.clip b).width.toNat (a.clip b).height.toNat =
          .ok (a.clip b).area) ∧
      ((∀ p : Point, p.Fits → ¬ (p ∈ a ∧ p ∈ b)) → a.clip b = empty) ∧
      (∀ c d : Rect, c.Fits → d.Fits →
        (∀ p : Point, p.Fits → (p ∈ a.clip b ↔ p ∈ c.clip d)) → a.clip b = c.clip d) ∧
      a.clip b = b.clip a ∧
      (∀ c : Rect, c.Fits → (a.clip b).clip c = a.clip (b.clip c)) ∧
      a.clip (a.clip b) = a.clip b := by
  have hexact := exact_clip ha b
  have hfits := fits_clip ha hb
  refine ⟨fun p => mem_clip ha, ?points, ⟨hfits, hexact.edges.1, hexact.edges.2,
    hexact.mul_sides hfits⟩, ?empty, fun c d hc hd => clip_eq_clip ha hb hc hd, ?comm, ?assoc,
    ?idem⟩
  case points =>
    simp only [← mem_clip ha]
    exact hexact.encard_eq
  case empty =>
    intro h
    exact hexact.eq_empty hfits fun p hp hmem => h p hp ((mem_clip ha).1 hmem)
  case comm =>
    refine clip_eq_clip ha hb hb ha fun p _ => ?_
    rw [mem_clip ha, mem_clip hb, and_comm]
  case assoc =>
    intro c hc
    refine clip_eq_clip hfits hc ha (fits_clip hb hc) fun p _ => ?_
    rw [mem_clip hfits, mem_clip ha, mem_clip ha, mem_clip hb, and_assoc]
  case idem =>
    refine clip_eq_clip ha hfits ha hb fun p _ => ?_
    rw [mem_clip ha, mem_clip ha, and_self_left]

/-- Of two rectangles that reach beyond the greatest coordinate, the common part ends there, with
two columns and 52 rows. A third one, which lies to the left of the second, leaves nothing of it. -/
theorem clip_at_far_edges :
    let a : Rect := ⟨2147483640, -2147483648, 100, 100⟩
    let b : Rect := ⟨2147483645, -2147483600, 2147483647, 2147483647⟩
    let c : Rect := ⟨-5, -2147483648, 2147483647, 7⟩
    (a.Fits ∧ b.Fits ∧ c.Fits) ∧ a.clip b = ⟨2147483645, -2147483600, 2, 52⟩ ∧
      {p : Point | p ∈ a ∧ p ∈ b}.encard = 104 ∧
      b.clip c = empty ∧ (a.clip b).clip c = a.clip (b.clip c) := by
  have ha : Fits ⟨2147483640, -2147483648, 100, 100⟩ := ⟨by decide, by decide, by decide, by decide⟩
  have hb : Fits ⟨2147483645, -2147483600, 2147483647, 2147483647⟩ :=
    ⟨by decide, by decide, by decide, by decide⟩
  have hc : Fits ⟨-5, -2147483648, 2147483647, 7⟩ := ⟨by decide, by decide, by decide, by decide⟩
  obtain ⟨-, hpoints, -, -, -, -, hassoc, -⟩ := clip_is_intersection ha hb
  obtain ⟨-, -, -, hempty, -⟩ := clip_is_intersection hb hc
  refine ⟨⟨ha, hb, hc⟩, by decide, hpoints, hempty fun p _ hp => ?_, hassoc _ hc⟩
  have hleft : (2147483645 : Int) ≤ p.x := hp.1.1.1
  have hright : p.x < (2147483642 : Int) := hp.2.1.2
  omega

end Rect

end Mosaic
