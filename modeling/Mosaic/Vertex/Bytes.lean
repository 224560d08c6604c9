import Mosaic.Vertex.Basic

/-!
# Vertices as bytes

A vertex is stored in sixteen bytes: its four words one after the other, each with the lowest byte
first. `Vertex.encode` writes a list of vertices and `Vertex.decode` reads one back, leaving out
bytes at the end that do not make up a vertex.
-/

namespace Mosaic

namespace Binary32

/-- The byte of a word that is worth `unit`. -/
def byte (w : Binary32) (unit : Nat) : UInt8 := UInt8.ofNat (w.bits.toNat / unit)

/-- The four bytes of a word, the lowest first. -/
def toBytes (w : Binary32) : List UInt8 :=
  [w.byte 1, w.byte 256, w.byte 65536, w.byte 16777216]

/-- The word of four bytes, the lowest first. -/
def ofBytes (b0 b1 b2 b3 : UInt8) : Binary32 :=
  ⟨UInt32.ofNat (b0.toNat + b1.toNat * 256 + b2.toNat * 65536 + b3.toNat * 16777216)⟩

theorem toNat_byte (w : Binary32) (unit : Nat) :
    (w.byte unit).toNat = w.bits.toNat / unit % 256 := by
  simp [byte, UInt8.toNat_ofNat']

theorem ofBytes_toBytes (w : Binary32) :
    ofBytes (w.byte 1) (w.byte 256) (w.byte 65536) (w.byte 16777216) = w := by
  obtain ⟨bits⟩ := w
  have bound : bits.toNat < 4294967296 := bits.toNat_lt
  simp only [ofBytes, toNat_byte, Binary32.mk.injEq]
  apply UInt32.toNat.inj
  rw [UInt32.toNat_ofNat']
  omega

end Binary32

namespace Vertex

/-- The number of bytes of a vertex. -/
def stride : Nat := 16

/-- The bytes of a vertex. -/
def toBytes (p : Vertex) : List UInt8 :=
  p.x.toBytes ++ p.y.toBytes ++ p.u.toBytes ++ p.v.toBytes

/-- The bytes of a list of vertices. -/
def encode (vertices : List Vertex) : List UInt8 := vertices.flatMap toBytes

/-- The vertices that the bytes of a list make up, up to the last whole one. -/
def decode : List UInt8 → List Vertex
  | x0 :: x1 :: x2 :: x3 :: y0 :: y1 :: y2 :: y3 ::
      u0 :: u1 :: u2 :: u3 :: v0 :: v1 :: v2 :: v3 :: rest =>
    ⟨.ofBytes x0 x1 x2 x3, .ofBytes y0 y1 y2 y3, .ofBytes u0 u1 u2 u3, .ofBytes v0 v1 v2 v3⟩ ::
      decode rest
  | _ => []

@[simp] theorem length_toBytes (p : Vertex) : p.toBytes.length = stride := rfl

@[simp] theorem encode_nil : encode [] = [] := rfl

theorem encode_cons (p : Vertex) (rest : List Vertex) :
    encode (p :: rest) = p.toBytes ++ encode rest := rfl

theorem length_encode (vertices : List Vertex) :
    (encode vertices).length = stride * vertices.length := by
  induction vertices with
  | nil => rfl
  | cons p rest ih => simp [encode_cons, ih, Nat.mul_succ, Nat.add_comm]

/-- Reading gives back what was written, whatever the words stand for, and leaves out bytes that do
not make up a vertex. -/
theorem decode_encode_append (vertices : List Vertex) {rest : List UInt8}
    (h : rest.length < stride) : decode (encode vertices ++ rest) = vertices := by
  induction vertices with
  | nil =>
    rw [encode_nil, List.nil_append]
    unfold decode
    split
    · simp only [List.length_cons, stride] at h
      omega
    · rfl
  | cons p others ih =>
    rw [encode_cons, List.append_assoc]
    simp only [toBytes, Binary32.toBytes, List.cons_append, List.nil_append, decode,
      Binary32.ofBytes_toBytes, ih]

theorem decode_encode (vertices : List Vertex) : decode (encode vertices) = vertices := by
  have h := decode_encode_append vertices (show ([] : List UInt8).length < stride by decide)
  rwa [List.append_nil] at h

end Vertex

end Mosaic
