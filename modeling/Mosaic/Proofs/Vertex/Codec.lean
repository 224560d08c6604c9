import Mosaic.Vertex.Bytes

/-!
# Reading back any bytes

Every list of bytes is that of some vertices with less than a vertex of bytes behind them
(`exists_eq_encode_append`), since sixteen bytes are a vertex whatever they are. So `Vertex.decode`
gives the vertices of which the encoding is the part of the bytes that is read, and no others have
it (`encode_eq_leading_iff`).
-/

namespace Mosaic

namespace Binary32

/-- Four bytes are those of the word that they make up. -/
theorem toBytes_ofBytes (b0 b1 b2 b3 : UInt8) :
    (ofBytes b0 b1 b2 b3).toBytes = [b0, b1, b2, b3] := by
  have h0 := b0.toNat_lt
  have h1 := b1.toNat_lt
  have h2 := b2.toNat_lt
  have h3 := b3.toNat_lt
  have hword : (ofBytes b0 b1 b2 b3).bits.toNat =
      b0.toNat + b1.toNat * 256 + b2.toNat * 65536 + b3.toNat * 16777216 := by
    rw [ofBytes, UInt32.toNat_ofNat']
    omega
  simp only [toBytes, List.cons.injEq, and_true]
  refine ⟨?_, ?_, ?_, ?_⟩ <;> apply UInt8.toNat.inj <;> rw [toNat_byte, hword] <;> omega

end Binary32

namespace Vertex

/-- The part of the bytes that makes up whole vertices. -/
def leading (bytes : List UInt8) : List UInt8 := bytes.take (stride * (bytes.length / stride))

theorem exists_toBytes {bytes : List UInt8} (h : bytes.length = stride) :
    ∃ p : Vertex, p.toBytes = bytes := by
  match bytes, h with
  | [x0, x1, x2, x3, y0, y1, y2, y3, u0, u1, u2, u3, v0, v1, v2, v3], _ =>
    exact ⟨⟨.ofBytes x0 x1 x2 x3, .ofBytes y0 y1 y2 y3, .ofBytes u0 u1 u2 u3,
      .ofBytes v0 v1 v2 v3⟩, by simp only [toBytes, Binary32.toBytes_ofBytes]; rfl⟩

/-- Bytes are those of some vertices, with less than a vertex of them left over. -/
theorem exists_eq_encode_append (bytes : List UInt8) :
    ∃ vertices rest, bytes = encode vertices ++ rest ∧ rest.length < stride := by
  -- The induction is on how many vertices the bytes make up.
  generalize hcount : bytes.length / stride = count
  induction count generalizing bytes with
  | zero => exact ⟨[], bytes, rfl, (Nat.div_eq_zero_iff_lt (by decide)).1 hcount⟩
  | succ count ih =>
      have hle : stride ≤ bytes.length := by
        simp only [stride] at hcount ⊢
        omega
      obtain ⟨p, hp⟩ := exists_toBytes (List.length_take_of_le hle)
      obtain ⟨vertices, rest, hbytes, hrest⟩ := ih (bytes.drop stride) (by
        rw [List.length_drop]
        simp only [stride] at hcount ⊢
        omega)
      refine ⟨p :: vertices, rest, ?_, hrest⟩
      rw [encode_cons, List.append_assoc, ← hbytes, hp, List.take_append_drop]

theorem length_div_stride (vertices : List Vertex) {rest : List UInt8} (h : rest.length < stride) :
    (encode vertices ++ rest).length / stride = vertices.length := by
  rw [List.length_append, length_encode, Nat.mul_add_div (by decide), Nat.div_eq_of_lt h,
    Nat.add_zero]

theorem leading_encode_append (vertices : List Vertex) {rest : List UInt8}
    (h : rest.length < stride) : leading (encode vertices ++ rest) = encode vertices := by
  rw [leading, length_div_stride vertices h, ← length_encode, List.take_left]

/-- What is read is written back as the part of the bytes that makes up whole vertices. -/
theorem encode_decode (bytes : List UInt8) : encode (decode bytes) = leading bytes := by
  obtain ⟨vertices, rest, rfl, hrest⟩ := exists_eq_encode_append bytes
  rw [decode_encode_append vertices hrest, leading_encode_append vertices hrest]

theorem length_decode (bytes : List UInt8) : (decode bytes).length = bytes.length / stride := by
  obtain ⟨vertices, rest, rfl, hrest⟩ := exists_eq_encode_append bytes
  rw [decode_encode_append vertices hrest, length_div_stride vertices hrest]

/-- The vertices that are read are the only ones with these bytes. -/
theorem encode_eq_leading_iff {vertices : List Vertex} {bytes : List UInt8} :
    encode vertices = leading bytes ↔ decode bytes = vertices := by
  constructor
  · intro h
    rw [← decode_encode (decode bytes), encode_decode, ← h, decode_encode]
  · rintro rfl
    exact encode_decode bytes

end Vertex

end Mosaic
