import Mosaic.Proofs.Vertex.Arena

/-!
# An arena as a list of quads

An `ArenaRun` takes an arena through pushes and clearings in any order and keeps what came of each.
What the arena holds can be told from that past alone: the quads that were pushed since it was last
cleared and not refused (`pushed`), one after the other. So nothing that was stored before a
clearing, and no push that was refused, is ever seen again (`holds_what_was_pushed`).
-/

namespace Mosaic

namespace Arena

/-- What can be asked of an arena. -/
inductive Request where
  | push (quad : Quad)
  | clear
  deriving DecidableEq

def Request.run : Request → Action Arena Unit
  | .push quad => Arena.push quad
  | .clear => Action.modify Arena.clear

/-- A request with what came of it. -/
structure Call where
  request : Request
  answer : Except Fault Unit

/-- The quads that were pushed since the arena was last cleared and not refused, oldest first. The
past has its calls newest first. -/
def pushed : List Call → List Quad
  | ⟨.push quad, .ok ()⟩ :: past => pushed past ++ [quad]
  | ⟨.push _, .error _⟩ :: past => pushed past
  | ⟨.clear, _⟩ :: _ => []
  | [] => []

end Arena

open Arena

/-- An arena with the calls to it so far, newest first. -/
structure ArenaRun where
  arena : Arena
  past : List Call

namespace ArenaRun

/-- An arena that was not asked anything yet. -/
def start (capacity : Nat) : ArenaRun := ⟨.ofCapacity capacity, []⟩

/-- The run after one more request. A push that is refused counts with the arena that it left. -/
def step (run : ArenaRun) (request : Request) : ArenaRun :=
  let outcome := request.run.run run.arena
  ⟨outcome.state, ⟨request, outcome.result⟩ :: run.past⟩

/-- The run after several requests. -/
def after (run : ArenaRun) (requests : List Request) : ArenaRun := requests.foldl step run

/-- The arena holds what its past says, within the capacity that it was given. -/
structure Agrees (capacity : Nat) (run : ArenaRun) : Prop where
  whole : run.arena.Whole
  capacity : run.arena.capacity = capacity
  vertices : run.arena.vertices = (pushed run.past).flatMap Quad.corners

variable {capacity : Nat} {run : ArenaRun}

theorem agrees_start (capacity : Nat) : Agrees capacity (start capacity) where
  whole := whole_ofCapacity capacity
  capacity := rfl
  vertices := vertices_ofCapacity capacity

theorem Agrees.push (h : Agrees capacity run) (quad : Quad) :
    Agrees capacity (run.step (.push quad)) := by
  by_cases hroom : run.arena.length + Quad.size ≤ run.arena.capacity
  · have hrun : (Request.push quad).run.run run.arena = _ := run_push_of_room hroom quad
    rw [step, hrun]
    refine ⟨h.whole.writeQuad hroom quad, (capacity_writeAll _ _).trans h.capacity, ?_⟩
    dsimp only [pushed]
    rw [vertices_writeAll h.whole.wellFormed, h.vertices, List.flatMap_append,
      List.flatMap_singleton]
  · have hrun : (Request.push quad).run.run run.arena = _ := run_push_of_full hroom quad
    rw [step, hrun]
    exact ⟨h.whole, h.capacity, h.vertices⟩

theorem Agrees.clear (h : Agrees capacity run) : Agrees capacity (run.step .clear) where
  whole := Whole.clear
  capacity := h.capacity
  vertices := vertices_clear run.arena

theorem Agrees.after (h : Agrees capacity run) (requests : List Request) :
    Agrees capacity (run.after requests) := by
  induction requests generalizing run with
  | nil => exact h
  | cons request rest ih =>
      refine ih ?_
      cases request with
      | push quad => exact h.push quad
      | clear => exact h.clear

theorem Agrees.length_eq (h : Agrees capacity run) :
    run.arena.length = Quad.size * (pushed run.past).length := by
  rw [← length_vertices h.whole.wellFormed, h.vertices, Quad.length_flatMap_corners]

/-- After any pushes and clearings, an arena of any capacity that can be had holds the corners of
the quads that were pushed since it was last cleared and not refused, in that order, and nothing
else. A push is refused just when fewer vertices are free than a quad has, and then it changes
nothing. -/
theorem holds_what_was_pushed (capacity : Nat) (requests : List Request) :
    let run := (start capacity).after requests
    (∀ arena, allocate capacity = .ok arena → arena = (start capacity).arena) ∧
      run.arena.capacity = capacity ∧
      (run.arena.length = Quad.size * (pushed run.past).length ∧ run.arena.length ≤ capacity) ∧
      run.arena.vertices = (pushed run.past).flatMap Quad.corners ∧
      (run.arena.bytes.length = Vertex.stride * run.arena.vertices.length ∧
        Vertex.decode run.arena.bytes = run.arena.vertices) ∧
      ∀ quad,
        let outcome := (push quad).run run.arena
        ((∃ fault, outcome.result = .error fault) ↔ capacity - run.arena.length < Quad.size) ∧
          ∀ fault, outcome.result = .error fault →
            fault = .arenaFull run.arena.length Quad.size capacity ∧ outcome.state = run.arena := by
  intro run
  have h : Agrees capacity run := (agrees_start capacity).after requests
  have hle : run.arena.length ≤ capacity := h.capacity ▸ h.whole.le
  refine ⟨fun arena ha => (allocate_eq_ok_iff.1 ha).2, h.capacity, ⟨h.length_eq, hle⟩, h.vertices,
    ⟨Vertex.length_encode _, Vertex.decode_encode _⟩, fun quad => ?_⟩
  have hcapacity := h.capacity
  by_cases hroom : run.arena.length + Quad.size ≤ run.arena.capacity
  · rw [run_push_of_room hroom]
    exact ⟨iff_of_false nofun (by omega), nofun⟩
  · rw [run_push_of_full hroom]
    refine ⟨iff_of_true ⟨_, rfl⟩ (by omega), fun fault hfault => ?_⟩
    cases hfault
    exact ⟨by rw [hcapacity], rfl⟩

/-- The quad with the given word for the left and top edges and zero for all others. -/
def cornered (w : UInt32) : Quad := ⟨⟨⟨w⟩, ⟨w⟩, ⟨0⟩, ⟨0⟩⟩, ⟨⟨w⟩, ⟨w⟩, ⟨0⟩, ⟨0⟩⟩⟩

/-- Requests that fill an arena of thirteen vertices, push once more, clear it and begin again. -/
def refilled : List Request :=
  [.push (cornered 1), .push (cornered 2), .push (cornered 3), .clear, .push (cornered 4)]

/-- Two quads fill the arena up to one vertex and a third is refused. After the clearing neither the
refused quad nor the two before it are left. -/
theorem holds_what_was_pushed_refilled :
    ((push (cornered 3)).run ((start 13).after (refilled.take 2)).arena).result =
        .error (.arenaFull 12 6 13) ∧
      ((start 13).after refilled).arena.vertices = (cornered 4).corners ∧
      ((start 13).after refilled).arena.bytes.length = 96 := by
  obtain ⟨-, -, ⟨hfilled, -⟩, -, -, hpush⟩ := holds_what_was_pushed 13 (refilled.take 2)
  obtain ⟨hrefused, hfault⟩ := hpush (cornered 3)
  obtain ⟨-, -, -, hvertices, ⟨hbytes, -⟩, -⟩ := holds_what_was_pushed 13 refilled
  have hpushed : pushed ((start 13).after refilled).past = [cornered 4] := rfl
  rw [hpushed, List.flatMap_singleton] at hvertices
  rw [hvertices] at hbytes
  obtain ⟨fault, herror⟩ := hrefused.2 (by rw [hfilled]; decide)
  rw [(hfault fault herror).1, hfilled] at herror
  exact ⟨herror, hvertices, hbytes⟩

end ArenaRun

end Mosaic
