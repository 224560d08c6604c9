import Mosaic.Proofs.Num.RowMajor
import Mosaic.Proofs.Sheet.Sizes

/-!
# Pixels put in and read back

A painter is asked for each pixel once, row by row (`places`), and the bytes of its answers follow
one another (`paintFrom_eq`). Since every pixel has four bytes, number `i` begins at byte `4 * i`
(`Pixel.getElem?_eq_some_iff_toList`), which is where the lookup reads it (`pixel_eq`). The number of
that byte has to fit 32 bits, though, while an image only has to be addressable, so a large image has
pixels that cannot be looked up.
-/

namespace Mosaic

namespace Pixel

theorem toList_inj {p q : Pixel} : p.toList = q.toList ↔ p = q := by
  cases p
  cases q
  simp [toList]

theorem drop_flatMap_toList (pixels : List Pixel) (i : Nat) :
    (pixels.flatMap toList).drop (4 * i) = (pixels.drop i).flatMap toList := by
  induction i generalizing pixels with
  | zero => rfl
  | succ i ih =>
      cases pixels with
      | nil => simp
      | cons p rest =>
          rw [List.drop_succ_cons, ← ih, Nat.mul_succ, Nat.add_comm, ← List.drop_drop]
          rfl

theorem length_flatMap_toList (pixels : List Pixel) :
    (pixels.flatMap toList).length = pixels.length * 4 := by
  simp [List.length_flatMap, toList]

/-- Pixel number `i` has the four bytes from number `4 * i` on. -/
theorem getElem?_eq_some_iff_toList {pixels : List Pixel} {i : Nat} {p : Pixel} :
    pixels[i]? = some p ↔ p.toList = ((pixels.flatMap toList).drop (4 * i)).take 4 := by
  rw [drop_flatMap_toList, ← List.head?_drop]
  cases pixels.drop i with
  | nil => simp [toList]
  | cons q rest => exact Option.some_inj.trans (eq_comm.trans toList_inj.symm)

end Pixel

namespace Image

/-! ### Painting -/

/-- The places of an image, row by row from the top and from left to right. -/
def places (width height : Nat) : List (Nat × Nat) :=
  (List.range height).flatMap fun y => (List.range width).map fun x => (x, y)

/-- What a painter answers when it is asked for the pixels at places one after the other. -/
def Painter.answers {σ : Type} (painter : Painter σ) (places : List (Nat × Nat)) :
    StateM σ (List Pixel) :=
  places.mapM fun place => painter place.1 place.2

theorem places_eq (width height : Nat) :
    places width height = (List.range (width * height)).map fun i => (i % width, i / width) := by
  rw [RowMajor.range_mul, List.map_flatMap, places]
  refine List.flatMap_congr fun y _ => ?_
  rw [List.map_map]
  refine List.map_congr_left fun x hx => ?_
  have hx' := List.mem_range.1 hx
  rw [Function.comp_apply, Nat.mul_add_mod_of_lt hx', RowMajor.number_div hx']

theorem length_places (width height : Nat) : (places width height).length = width * height := by
  rw [places_eq, List.length_map, List.length_range]

section Painting

variable {σ : Type} (painter : Painter σ)

theorem Painter.answers_cons (place : Nat × Nat) (rest : List (Nat × Nat)) (s : σ) :
    (painter.answers (place :: rest)).run s =
      ((painter place.1 place.2 s).1 ::
          ((painter.answers rest).run (painter place.1 place.2 s).2).1,
        ((painter.answers rest).run (painter place.1 place.2 s).2).2) := by
  rw [answers, List.mapM_cons]
  rfl

theorem Painter.length_answers (places : List (Nat × Nat)) (s : σ) :
    ((painter.answers places).run s).1.length = places.length := by
  induction places generalizing s with
  | nil => rfl
  | cons place rest ih => rw [answers_cons, List.length_cons, ih, List.length_cons]

/-- The bytes of the answers are put behind those that are there, in the order of the places. -/
theorem paintFrom_eq (width left next : Nat) (bytes : Array UInt8) (s : σ) :
    paintFrom painter width left next bytes s =
      let answers := (painter.answers
        ((List.range' next left).map fun i => (i % width, i / width))).run s
      (bytes ++ answers.1.flatMap Pixel.toList, answers.2) := by
  induction left generalizing next bytes s with
  | zero =>
      change (bytes, s) = (bytes ++ ([] : List UInt8), s)
      simp
  | succ left ih =>
      rw [List.range'_succ, List.map_cons, Painter.answers_cons]
      refine (ih (next + 1) _ _).trans ?_
      simp [Pixel.toList]

/-- Where the bytes can be addressed, the painter is asked for the pixels of all places. -/
theorem generate_eq {width height : Nat} (h : width * height * 4 < Bounded.addressable) (s : σ) :
    generate width height painter s =
      let answers := (painter.answers (places width height)).run s
      .ok (⟨width, height, (answers.1.flatMap Pixel.toList).toArray⟩, answers.2) := by
  have hcount : width * height * 4 < Bounded.Width.bits64.count :=
    Nat.lt_trans h (by decide)
  have hreserve : Bounded.reserve (width * height * 4) 1 = .ok (width * height * 4) :=
    Bounded.reserve_eq_ok_iff.2 ⟨by rwa [Nat.mul_one], (Nat.mul_one _).symm⟩
  have hpainted := paintFrom_eq painter width (width * height) 0 #[] s
  rw [← List.range_eq_range', ← places_eq] at hpainted
  rw [generate, Bounded.mul_bind_mul _ _ _ (by decide), if_pos hcount, hreserve]
  simp only [bind, Except.bind, pure, Except.pure, hpainted]
  simp

end Painting

/-! ### Looking up -/

theorem pixelAt_eq (image : Image) (i : Nat) :
    image.pixelAt i =
      match image.bytes.toList.drop i with
      | red :: green :: blue :: alpha :: _ => some ⟨red, green, blue, alpha⟩
      | _ => none := by
  have hbyte (k : Nat) : image.bytes[i + k]? = (image.bytes.toList.drop i)[k]? := by
    rw [List.getElem?_drop, Array.getElem?_toList]
  have hfirst := hbyte 0
  rw [Nat.add_zero] at hfirst
  simp only [pixelAt, hfirst, hbyte]
  match image.bytes.toList.drop i with
  | [] | [_] | [_, _] | [_, _, _] | _ :: _ :: _ :: _ :: _ => rfl

theorem pixelAt_eq_some_iff {image : Image} {i : Nat} {p : Pixel} :
    image.pixelAt i = some p ↔ p.toList = (image.bytes.toList.drop i).take 4 := by
  rw [pixelAt_eq]
  match image.bytes.toList.drop i with
  | [] | [_] | [_, _] | [_, _, _] => simp [Pixel.toList]
  | red :: green :: blue :: alpha :: _ =>
    exact Option.some_inj.trans (eq_comm.trans Pixel.toList_inj.symm)

theorem pixelAt_ne_none {image : Image} {i : Nat} (h : i + 4 ≤ image.bytes.size) :
    image.pixelAt i ≠ none := by
  have hlength : 4 ≤ (image.bytes.toList.drop i).length := by
    rw [List.length_drop, Array.length_toList]
    omega
  rw [pixelAt_eq]
  match image.bytes.toList.drop i, hlength with
  | _ :: _ :: _ :: _ :: _, _ => exact Option.some_ne_none _

/-- Inside the image, where the number of the first byte fits 32 bits, the pixel is read there.
Where it does not, either the number of the pixel cannot be counted or that of its byte. -/
theorem pixel_eq (image : Image) (x y : Nat) :
    image.pixel x y =
      if image.width ≤ x ∨ image.height ≤ y then .ok none
      else if 4 * (y * image.width + x) < Bounded.Width.bits32.count then
        .ok (image.pixelAt (4 * (y * image.width + x)))
      else .error (.overflow (if y * image.width < Bounded.Width.bits32.count ∧
        Bounded.Width.bits32.count ≤ y * image.width + x then .add else .multiply)) := by
  rw [pixel, Nat.mul_comm 4]
  refine if_congr Iff.rfl rfl ?_
  dsimp only [Bounded.mul, Bounded.add, Bounded.unsigned]
  by_cases hbefore : y * image.width < Bounded.Width.bits32.count
  · rw [if_pos hbefore]
    by_cases hplace : y * image.width + x < Bounded.Width.bits32.count
    · simp only [bind, Except.bind, if_pos hplace]
      by_cases hfirst : (y * image.width + x) * 4 < Bounded.Width.bits32.count
      · rw [if_pos hfirst, if_pos hfirst]
        rfl
      · rw [if_neg hfirst, if_neg hfirst, if_neg]
        exact fun h => absurd hplace (Nat.not_lt.2 h.2)
    · simp only [bind, Except.bind, if_neg hplace]
      rw [if_neg (by omega), if_pos ⟨hbefore, Nat.not_lt.1 hplace⟩]
  · rw [if_neg hbefore, if_neg (by omega), if_neg fun h => hbefore h.1]
    rfl

/-- Every lookup of an image is settled by the pixels that it has. Outside there is nothing to show,
inside the pixel with the number of the place is shown if the number of its first byte fits 32 bits,
and the lookup faults if it does not. The bytes of the image make it again. -/
structure Shows (image : Image) (width height : Nat) (At : Nat → Pixel → Prop) : Prop where
  sides : image.width = width ∧ image.height = height
  size_bytes : image.bytes.size = width * height * 4
  outside : ∀ x y, image.pixel x y = .ok none ↔ width ≤ x ∨ height ≤ y
  shown : ∀ x y p, image.pixel x y = .ok (some p) ↔
    (x < width ∧ y < height) ∧ 4 * (y * width + x) < Bounded.Width.bits32.count ∧
      At (y * width + x) p
  fault : ∀ x y f, image.pixel x y = .error f ↔
    (x < width ∧ y < height) ∧ ¬ 4 * (y * width + x) < Bounded.Width.bits32.count ∧
      f = .overflow (if y * width < Bounded.Width.bits32.count ∧
        Bounded.Width.bits32.count ≤ y * width + x then .add else .multiply)
  made_again : 0 < width → 0 < height →
    ofBytes image.width image.height image.bytes = .ok (.ok image)

/-- The pixels of an image that has all of its bytes are there one after the other. -/
theorem shows_of_size_bytes {width height : Nat} {bytes : Array UInt8}
    (hcount : width * height * 4 < Bounded.Width.bits64.count)
    (hsize : bytes.size = width * height * 4) :
    Shows ⟨width, height, bytes⟩ width height fun i p =>
      p.toList = (bytes.toList.drop (4 * i)).take 4 := by
  have hthere {x y : Nat} (hinside : x < width ∧ y < height) :
      pixelAt ⟨width, height, bytes⟩ (4 * (y * width + x)) ≠ none := by
    have hplace := RowMajor.number_lt hinside.1 hinside.2
    refine pixelAt_ne_none ?_
    dsimp only
    omega
  refine ⟨⟨rfl, rfl⟩, hsize, fun x y => ?_, fun x y p => ?_, fun x y f => ?_, fun hw hh => ?_⟩
  case refine_4 => rw [ofBytes_eq, if_pos hcount, if_pos ⟨⟨hw, hh⟩, hsize⟩]
  all_goals
    rw [pixel_eq]
    dsimp only
    by_cases houtside : width ≤ x ∨ height ≤ y
    · have hinside : ¬ (x < width ∧ y < height) := by omega
      simp [houtside, hinside]
    · have hinside : x < width ∧ y < height := by omega
      rw [if_neg houtside]
      by_cases hfits : 4 * (y * width + x) < Bounded.Width.bits32.count
      · simp [houtside, hinside, hthere hinside, hfits, pixelAt_eq_some_iff]
      · simp [houtside, hinside, hfits, eq_comm]

/-- An image shows the pixels that it was made of, where their places can be counted. A painter is
asked for each pixel of the image once, row by row, and its answer for a place is what is found
there. Of bytes that are taken as they are, a place shows the four that belong to it. -/
theorem lookup_inverts_construction {width height : Nat}
    (h : width * height * 4 < Bounded.addressable) :
    (∀ (σ : Type) (painter : Painter σ) (s : σ),
      let answers := (painter.answers (places width height)).run s
      ∃ image, generate width height painter s = .ok (image, answers.2) ∧
        Shows image width height fun i p => answers.1[i]? = some p) ∧
      ∀ bytes : Array UInt8, 0 < width → 0 < height → bytes.size = width * height * 4 →
        ∃ image, ofBytes width height bytes = .ok (.ok image) ∧ image.bytes = bytes ∧
          Shows image width height fun i p => p.toList = (bytes.toList.drop (4 * i)).take 4 := by
  have hcount : width * height * 4 < Bounded.Width.bits64.count := Nat.lt_trans h (by decide)
  refine ⟨fun σ painter s => ⟨_, generate_eq painter h s, ?_⟩, fun bytes hw hh hsize => ?_⟩
  · simp only [Pixel.getElem?_eq_some_iff_toList]
    refine shows_of_size_bytes hcount ?_
    rw [List.size_toArray, Pixel.length_flatMap_toList, Painter.length_answers, length_places]
  · have hshows := shows_of_size_bytes hcount hsize
    exact ⟨_, hshows.made_again hw hh, rfl, hshows⟩

/-- A painter that marks a pixel with its place and with how often it was asked before. -/
def numbered : Painter Nat := fun x y asked =>
  (⟨UInt8.ofNat x, UInt8.ofNat y, UInt8.ofNat asked, 255⟩, asked + 1)

/-- Two rows of two pixels are asked for in four steps, and the third answer is found at the start of
the second row. An image of eight gigabytes has more pixels than can be looked up. -/
theorem lookup_inverts_construction_numbered :
    (∃ image, generate 2 2 numbered 0 = .ok (image, 4) ∧
        image.pixel 0 1 = .ok (some ⟨0, 1, 2, 255⟩) ∧ image.pixel 2 0 = .ok none ∧
        ofBytes 2 2 image.bytes = .ok (.ok image)) ∧
      ∃ image asked, generate 65536 32768 numbered 0 = .ok (image, asked) ∧
        image.pixel 0 16384 = .error (.overflow .multiply) := by
  constructor
  · obtain ⟨image, hmade, hshows⟩ := (lookup_inverts_construction
      (show 2 * 2 * 4 < Bounded.addressable by decide)).1 Nat numbered 0
    obtain ⟨hwidth, hheight⟩ := hshows.sides
    have hagain := hshows.made_again (by decide) (by decide)
    rw [hwidth, hheight] at hagain
    exact ⟨image, hmade, (hshows.shown 0 1 _).2 ⟨by decide, by decide, rfl⟩,
      (hshows.outside 2 0).2 (by decide), hagain⟩
  · obtain ⟨image, hmade, hshows⟩ := (lookup_inverts_construction
      (show 65536 * 32768 * 4 < Bounded.addressable by decide)).1 Nat numbered 0
    exact ⟨image, _, hmade, (hshows.fault 0 16384 _).2 ⟨by decide, by decide, by decide⟩⟩

end Image

end Mosaic
