import Mosaic.Action

/-!
# Vertex arenas

An `Arena` is a list of vertices of bounded length. Clearing it sets its length to zero and keeps
what was stored, and quads written later replace what lies there, so a full arena never grows
again. Only the first `length` vertices count (`Arena.vertices`).
-/

namespace Mosaic

/-- A list of vertices of bounded length, stored in place. -/
structure Arena where
  /-- The greatest number of vertices. -/
  capacity : Nat
  /-- What was ever written, kept when the arena is cleared. -/
  storage : Array Vertex
  /-- The number of vertices written since the arena was cleared. -/
  length : Nat
  deriving DecidableEq, Repr

namespace Arena

/-- An arena in which nothing was written yet. -/
def ofCapacity (capacity : Nat) : Arena := ⟨capacity, #[], 0⟩

/-- An arena in which nothing was written yet, refused when its vertices could not be addressed. -/
def allocate (capacity : Nat) : Except Fault Arena := do
  let _ ← Bounded.reserve capacity Vertex.stride
  return ofCapacity capacity

/-- Whether nothing was written since the arena was cleared. -/
def isEmpty (arena : Arena) : Bool := arena.length = 0

/-- The vertices written since the arena was cleared. -/
def vertices (arena : Arena) : List Vertex := (arena.storage.extract 0 arena.length).toList

/-- The bytes of the vertices. -/
def bytes (arena : Arena) : List UInt8 := Vertex.encode arena.vertices

/-- The arena with nothing written. -/
def clear (arena : Arena) : Arena := { arena with length := 0 }

/-- The arena with one more vertex, over whatever is stored at its place. -/
def write (arena : Arena) (p : Vertex) : Arena :=
  match arena with
  | ⟨capacity, storage, length⟩ =>
    if length < storage.size then ⟨capacity, storage.setIfInBounds length p, length + 1⟩
    else ⟨capacity, storage.push p, length + 1⟩

/-- Adds a quad, refused when its vertices do not fit. -/
def push (quad : Quad) : Action Arena Unit := fun arena =>
  if arena.length + Quad.size ≤ arena.capacity then
    ⟨.ok (), quad.corners.foldl write arena, []⟩
  else ⟨.error (.arenaFull arena.length Quad.size arena.capacity), arena, []⟩

/-- An arena is had when its vertices can be addressed, and then nothing is written in it. -/
theorem allocate_eq_ok_iff {capacity : Nat} {arena : Arena} :
    allocate capacity = .ok arena ↔
      capacity * Vertex.stride < Bounded.addressable ∧ arena = ofCapacity capacity := by
  by_cases h : capacity * Vertex.stride < Bounded.addressable
  · simp [allocate, Bounded.reserve, h, bind, Except.bind, pure, Except.pure, eq_comm]
  · simp [allocate, Bounded.reserve, h, bind, Except.bind]

/-- The vertices that count are stored. -/
def WellFormed (arena : Arena) : Prop := arena.length ≤ arena.storage.size

theorem wellFormed_ofCapacity (capacity : Nat) : (ofCapacity capacity).WellFormed :=
  Nat.zero_le _

theorem wellFormed_clear (arena : Arena) : arena.clear.WellFormed := Nat.zero_le _

@[simp] theorem vertices_ofCapacity (capacity : Nat) : (ofCapacity capacity).vertices = [] := by
  simp [vertices, ofCapacity]

@[simp] theorem vertices_clear (arena : Arena) : arena.clear.vertices = [] := by
  simp [vertices, clear]

theorem length_vertices {arena : Arena} (h : arena.WellFormed) :
    arena.vertices.length = arena.length := by
  simp only [vertices, Array.length_toList, Array.size_extract, Nat.sub_zero]
  exact Nat.min_eq_left h

theorem wellFormed_write {arena : Arena} (h : arena.WellFormed) (p : Vertex) :
    (arena.write p).WellFormed := by
  obtain ⟨capacity, storage, length⟩ := arena
  simp only [WellFormed, write] at h ⊢
  split <;> simp only [Array.size_setIfInBounds, Array.size_push] <;> omega

/-- A vertex is added at the end, whatever was stored there before. -/
theorem vertices_write {arena : Arena} (h : arena.WellFormed) (p : Vertex) :
    (arena.write p).vertices = arena.vertices ++ [p] := by
  obtain ⟨capacity, storage, length⟩ := arena
  simp only [WellFormed] at h
  simp only [vertices, write]
  split
  · apply List.ext_getElem?
    intro i
    simp only [Array.getElem?_toList, List.getElem?_append, Array.length_toList,
      Array.size_extract, Array.getElem?_extract, Array.size_setIfInBounds,
      Array.getElem?_setIfInBounds, Nat.zero_add, Nat.sub_zero]
    grind
  · have full : length = storage.size := by omega
    subst full
    simp only [Array.toList_extract, Array.toList_push, List.extract_eq_take_drop, List.drop_zero,
      Nat.sub_zero]
    rw [List.take_of_length_le (by simp), List.take_of_length_le (by simp)]

end Arena

end Mosaic
