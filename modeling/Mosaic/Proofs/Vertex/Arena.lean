import Mosaic.Proofs.Action
import Mosaic.Vertex.Arena

/-!
# Filling a vertex arena

An arena is `Whole` when what counts of it is stored, fits, and consists of quads. A push keeps
this, also a push that is refused, and so does clearing. The list of vertices is a list that grows
at its end: `vertices_writeAll` does not ask what an earlier filling left in the storage.
-/

namespace Mosaic

theorem Quad.length_flatMap_corners (quads : List Quad) :
    (quads.flatMap corners).length = size * quads.length := by
  rw [List.length_flatMap, List.map_congr_left fun q _ => length_corners q, List.map_const',
    List.sum_replicate_nat, Nat.mul_comm]

namespace Arena

/-- The arena with several more vertices. -/
def writeAll (arena : Arena) (ps : List Vertex) : Arena := ps.foldl write arena

@[simp] theorem writeAll_nil (arena : Arena) : arena.writeAll [] = arena := rfl

theorem writeAll_cons (arena : Arena) (p : Vertex) (ps : List Vertex) :
    arena.writeAll (p :: ps) = (arena.write p).writeAll ps := rfl

theorem writeAll_append (arena : Arena) (ps qs : List Vertex) :
    arena.writeAll (ps ++ qs) = (arena.writeAll ps).writeAll qs := List.foldl_append

theorem capacity_write (arena : Arena) (p : Vertex) :
    (arena.write p).capacity = arena.capacity := by
  obtain ⟨capacity, storage, length⟩ := arena
  simp only [write]
  split <;> rfl

theorem length_write (arena : Arena) (p : Vertex) :
    (arena.write p).length = arena.length + 1 := by
  obtain ⟨capacity, storage, length⟩ := arena
  simp only [write]
  split <;> rfl

theorem capacity_writeAll (arena : Arena) (ps : List Vertex) :
    (arena.writeAll ps).capacity = arena.capacity := by
  induction ps generalizing arena with
  | nil => rfl
  | cons p ps ih => rw [writeAll_cons, ih, capacity_write]

theorem length_writeAll (arena : Arena) (ps : List Vertex) :
    (arena.writeAll ps).length = arena.length + ps.length := by
  induction ps generalizing arena with
  | nil => rfl
  | cons p ps ih =>
      rw [writeAll_cons, ih, length_write, List.length_cons]
      omega

theorem wellFormed_writeAll {arena : Arena} (h : arena.WellFormed) (ps : List Vertex) :
    (arena.writeAll ps).WellFormed := by
  induction ps generalizing arena with
  | nil => exact h
  | cons p ps ih => exact ih (wellFormed_write h p)

theorem vertices_writeAll {arena : Arena} (h : arena.WellFormed) (ps : List Vertex) :
    (arena.writeAll ps).vertices = arena.vertices ++ ps := by
  induction ps generalizing arena with
  | nil => exact (List.append_nil _).symm
  | cons p ps ih =>
      rw [writeAll_cons, ih (wellFormed_write h p), vertices_write h, List.append_assoc]
      rfl

theorem run_push_of_room {arena : Arena} (h : arena.length + Quad.size ≤ arena.capacity)
    (quad : Quad) : (push quad).run arena = ⟨.ok (), arena.writeAll quad.corners, []⟩ := if_pos h

theorem run_push_of_full {arena : Arena} (h : ¬ arena.length + Quad.size ≤ arena.capacity)
    (quad : Quad) :
    (push quad).run arena =
      ⟨.error (.arenaFull arena.length Quad.size arena.capacity), arena, []⟩ := if_neg h

-- From here on only the lemmas above say what several writes come to.
attribute [irreducible] writeAll

/-- What counts of the arena is stored, fits, and consists of quads. -/
structure Whole (arena : Arena) : Prop where
  wellFormed : arena.WellFormed
  dvd : Quad.size ∣ arena.length
  le : arena.length ≤ arena.capacity

theorem whole_ofCapacity (capacity : Nat) : (ofCapacity capacity).Whole :=
  ⟨wellFormed_ofCapacity capacity, Nat.dvd_zero _, Nat.zero_le _⟩

theorem Whole.clear {arena : Arena} : arena.clear.Whole :=
  ⟨wellFormed_clear arena, Nat.dvd_zero _, Nat.zero_le _⟩

theorem Whole.writeQuad {arena : Arena} (h : arena.Whole)
    (hroom : arena.length + Quad.size ≤ arena.capacity) (quad : Quad) :
    (arena.writeAll quad.corners).Whole := by
  refine ⟨wellFormed_writeAll h.wellFormed _, ?_, ?_⟩
  · rw [length_writeAll, Quad.length_corners]
    exact Nat.dvd_add h.dvd (Nat.dvd_refl _)
  · rw [length_writeAll, capacity_writeAll, Quad.length_corners]
    exact hroom

/-- The capacity stays, and an arena that is whole stays whole. -/
def Fills (before after : Arena) : Prop :=
  after.capacity = before.capacity ∧ (before.Whole → after.Whole)

instance : IsPreorder Arena Fills where
  refl _ := ⟨rfl, id⟩
  trans _ _ _ hab hbc := ⟨hbc.1.trans hab.1, fun h => hbc.2 (hab.2 h)⟩

theorem follows_clear : Action.Follows Fills (Action.modify clear) := fun _ =>
  ⟨rfl, fun _ => Whole.clear⟩

theorem follows_push (quad : Quad) : Action.Follows Fills (push quad) := by
  intro arena
  by_cases hroom : arena.length + Quad.size ≤ arena.capacity
  · rw [run_push_of_room hroom]
    exact ⟨capacity_writeAll arena _, fun h => h.writeQuad hroom quad⟩
  · rw [run_push_of_full hroom]
    exact refl_of Fills arena

end Arena

end Mosaic
