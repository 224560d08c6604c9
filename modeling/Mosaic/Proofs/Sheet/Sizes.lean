import Mosaic.Proofs.Sheet.Names

/-!
# Which sizes make an image and a sheet

Whether bytes make an image, and whether an image is cut into cells of a size, is decided by products
of sizes, which are checked against their width. Two products in a row pass the checks exactly when
that of all three factors fits (`Bounded.mul_bind_mul`). Whatever fits is decided as by unbounded
numbers, and the error that refuses the sizes has a text. Where the bytes of an image cannot be
counted in 64 bits, or the cells of a sheet not in 32, there is a fault instead of that error.
-/

namespace Mosaic

/-- Two products in a row overflow exactly when the product of all three factors does. -/
theorem Bounded.mul_bind_mul {α : Type} (width : Width) (a b : Nat) {c : Nat} (hc : 0 < c)
    (rest : Nat → Nat → Except Fault α) :
    (do let first ← mul width a b; let whole ← mul width first c; rest first whole) =
      if a * b * c < width.count then rest (a * b) (a * b * c)
      else .error (.overflow .multiply) := by
  have hle : a * b ≤ a * b * c := Nat.le_mul_of_pos_right _ hc
  unfold mul unsigned
  by_cases h : a * b * c < width.count
  · rw [if_pos (Nat.lt_of_le_of_lt hle h), if_pos h]
    simp only [bind, Except.bind, if_pos h]
  · rw [if_neg h]
    by_cases hfirst : a * b < width.count
    · rw [if_pos hfirst]
      simp only [bind, Except.bind, if_neg h]
    · rw [if_neg hfirst]
      rfl

theorem SetupError.message_invalidImage (width height length : Nat) :
    (invalidImage width height length).message =
      if width * height * 4 < Bounded.Width.bits64.count then
        .ok s!"sheet image of {width}x{height} needs {width * height * 4} bytes, got {length}"
      else .error (.overflow .multiply) :=
  Bounded.mul_bind_mul .bits64 width height (by decide) fun _ => _

namespace Image

/-- No side is empty, and there are four bytes for each pixel. -/
def Fills (width height length : Nat) : Prop :=
  (0 < width ∧ 0 < height) ∧ length = width * height * 4

instance (width height length : Nat) : Decidable (Fills width height length) :=
  inferInstanceAs (Decidable (_ ∧ _))

/-- Bytes that can be counted make an image when they fill it. An empty side comes first, but it
leaves no bytes to count. -/
theorem ofBytes_eq (width height : Nat) (bytes : Array UInt8) :
    ofBytes width height bytes =
      if width * height * 4 < Bounded.Width.bits64.count then
        if Fills width height bytes.size then .ok (.ok ⟨width, height, bytes⟩)
        else .ok (.error (.invalidImage width height bytes.size))
      else .error (.overflow .multiply) := by
  unfold ofBytes
  split
  case isTrue h =>
    have hempty : width * height * 4 = 0 := by rcases h with rfl | rfl <;> simp
    rw [hempty, if_pos (by decide), if_neg]
    rintro ⟨hsides, -⟩
    omega
  case isFalse h =>
    have hsides : 0 < width ∧ 0 < height := by omega
    rw [Bounded.mul_bind_mul _ _ _ (by decide)]
    simp only [Fills, and_iff_right hsides]
    rfl

end Image

/-! ### Decisions -/

/-- Sizes decide what comes of an operation. Where the things that they describe can be counted, it
makes something of acceptable sizes and refuses any others with an error that has the given text.
Where they cannot, their product faults. -/
structure DecidedBy {α : Type} (outcome : Except Fault (Except SetupError α))
    (counted accepted : Prop) (made : α) (refusal : SetupError) (text : String) : Prop where
  made_iff : ∀ x, outcome = .ok (.ok x) ↔ accepted ∧ counted ∧ x = made
  refused_iff : ∀ error, outcome = .ok (.error error) ↔ ¬ accepted ∧ counted ∧ error = refusal
  fault_iff : ∀ fault, outcome = .error fault ↔ ¬ counted ∧ fault = .overflow .multiply
  message : counted → refusal.message = .ok text

theorem decidedBy_of_eq {α : Type} {outcome : Except Fault (Except SetupError α)}
    {counted accepted : Prop} [Decidable counted] [Decidable accepted] {made : α}
    {refusal : SetupError} {text : String}
    (h : outcome = if counted then if accepted then .ok (.ok made) else .ok (.error refusal)
      else .error (.overflow .multiply))
    (hmessage : counted → refusal.message = .ok text) :
    DecidedBy outcome counted accepted made refusal text := by
  subst h
  constructor
  case message => exact hmessage
  all_goals
    intro result
    by_cases hcounted : counted
    · by_cases haccepted : accepted <;> simp [hcounted, haccepted, eq_comm]
    · simp [hcounted, eq_comm]

/-- Sizes decide as unbounded numbers whether bytes make an image, as long as the bytes that it
needs can be counted in 64 bits, and whether an image is cut into cells, as long as the cells can be
counted in 32. The error of an image names the exact number of bytes that it needs. -/
theorem Image.sizes_decide_construction (width height : Nat) (bytes : Array UInt8) :
    DecidedBy (ofBytes width height bytes) (width * height * 4 < Bounded.Width.bits64.count)
        (Fills width height bytes.size) ⟨width, height, bytes⟩
        (.invalidImage width height bytes.size)
        s!"sheet image of {width}x{height} needs {width * height * 4} bytes, got {bytes.size}" ∧
      ∀ image, ofBytes width height bytes = .ok (.ok image) → ∀ cellWidth cellHeight,
        DecidedBy (GridSheet.cut image cellWidth cellHeight)
          (width / cellWidth * (height / cellHeight) < Bounded.Width.bits32.count)
          (GridSheet.Divides image cellWidth cellHeight)
          ⟨image, cellWidth, cellHeight, width / cellWidth, height / cellHeight, .empty⟩
          (.invalidSpriteSize cellWidth cellHeight)
          s!"invalid sprite size {cellWidth}x{cellHeight}" := by
  have himage := decidedBy_of_eq (ofBytes_eq width height bytes) fun h =>
    (SetupError.message_invalidImage width height bytes.size).trans (if_pos h)
  refine ⟨himage, fun image hmade cellWidth cellHeight => ?_⟩
  obtain ⟨-, -, rfl⟩ := (himage.made_iff image).1 hmade
  exact decidedBy_of_eq (GridSheet.cut_eq _ cellWidth cellHeight) fun _ => rfl

/-- Fifteen bytes are one too few for two rows of two pixels, sixteen make the image, and a cell wider
than it is refused. -/
theorem Image.sizes_decide_construction_square :
    ofBytes 2 2 (Array.replicate 15 7) = .ok (.error (.invalidImage 2 2 15)) ∧
      (SetupError.invalidImage 2 2 15).message = .ok "sheet image of 2x2 needs 16 bytes, got 15" ∧
      ofBytes 2 2 (Array.replicate 16 7) = .ok (.ok ⟨2, 2, Array.replicate 16 7⟩) ∧
      GridSheet.cut ⟨2, 2, Array.replicate 16 7⟩ 3 1 = .ok (.error (.invalidSpriteSize 3 1)) := by
  obtain ⟨hshort, -⟩ := sizes_decide_construction 2 2 (Array.replicate 15 7)
  obtain ⟨hfull, hcut⟩ := sizes_decide_construction 2 2 (Array.replicate 16 7)
  have hmade := (hfull.made_iff _).2 ⟨by decide, by decide, rfl⟩
  refine ⟨(hshort.refused_iff _).2 ⟨by decide, by decide, rfl⟩, ?_, hmade, ?_⟩
  · exact hshort.message (by decide)
  · exact ((hcut _ hmade 3 1).refused_iff _).2 ⟨by decide, by decide, rfl⟩

/-- Without a byte, an image of so many pixels that its bytes cannot be counted in 64 bits is not
refused but faults, and so would the text of the error. Of an image that is accepted, with as many
cells as there are numbers of 32 bits, the cells cannot be counted. -/
theorem Image.sizes_overflow :
    ofBytes 2147483648 2147483648 #[] = .error (.overflow .multiply) ∧
      (SetupError.invalidImage 2147483648 2147483648 0).message = .error (.overflow .multiply) ∧
      ∃ image, ofBytes 65536 65536 (Array.replicate 17179869184 0) = .ok (.ok image) ∧
        GridSheet.cut image 1 1 = .error (.overflow .multiply) := by
  have hfills : Fills 65536 65536 (Array.replicate 17179869184 (0 : UInt8)).size :=
    ⟨by decide, Array.size_replicate⟩
  refine ⟨rfl, rfl, ⟨65536, 65536, Array.replicate 17179869184 0⟩, ?_, ?_⟩
  · rw [ofBytes_eq, if_pos (by decide), if_pos hfills]
  · rw [GridSheet.cut_eq]
    exact if_neg (by decide)

end Mosaic
