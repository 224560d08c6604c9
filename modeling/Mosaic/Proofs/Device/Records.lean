import Mosaic.Proofs.Device.Steps
import Mosaic.Proofs.Vertex.Codec

/-!
# Uploads to a recorder and the records of its draws

An upload that the mesh takes leaves there the vertices that the bytes make up, whatever the bytes
are (`Recorder.Refilled`), and any other upload changes nothing. A draw is recorded with what its
mesh holds when it is asked for (`Recorder.snapshots`). From then on the record stays as it is until
the records are cleared: all other steps only add records behind those that there are
(`draws_after`).
-/

namespace Mosaic

namespace Recorder

/-! ### Uploads -/

/-- The mesh is alive and takes that many bytes. -/
def Takes (r : Recorder) (mesh : MeshId) (bytes : List UInt8) : Prop :=
  ∃ stored, r.meshes.get? mesh = some stored ∧ bytes.length ≤ stored.capacity

/-- The mesh holds the vertices that the bytes make up, and all else is as it was. -/
structure Refilled (r : Recorder) (mesh : MeshId) (bytes : List UInt8) (r' : Recorder) : Prop where
  held : ∃ vertices, r'.meshVertices mesh = some vertices ∧
    vertices.length = bytes.length / Vertex.stride
  encoded : ∀ vertices, r'.meshVertices mesh = some vertices ↔
    Vertex.encode vertices = Vertex.leading bytes
  /-- What was encoded is held again, and bytes behind it that make up no vertex are left out. -/
  readBack : ∀ vertices rest, bytes = Vertex.encode vertices ++ rest →
    rest.length < Vertex.stride → r'.meshVertices mesh = some vertices
  form : ∀ ρ, r'.form ρ = r.form ρ
  kept : ∀ ρ, ρ ≠ .mesh mesh → r'.kept ρ = r.kept ρ
  draws : r'.draws = r.draws

variable {r : Recorder} {mesh : MeshId} {bytes : List UInt8}

theorem run_upload_of_fits {stored : RecordedMesh} (h : r.meshes.get? mesh = some stored)
    (hle : bytes.length ≤ stored.capacity) :
    (upload mesh bytes).run r =
      ⟨.ok (), { r with meshes := r.meshes.insert mesh ⟨stored.capacity, Vertex.decode bytes⟩ },
        []⟩ := by
  rw [upload, Action.run_get_bind, h]
  simp only [Nat.not_lt.2 hle, if_false, Action.run_modify]

theorem refilled_of_takes (h : r.Takes mesh bytes) :
    r.Refilled mesh bytes ((upload mesh bytes).run r).state := by
  obtain ⟨stored, hstored, hle⟩ := h
  have hstate : ((upload mesh bytes).run r).state =
      { r with meshes := r.meshes.insert mesh ⟨stored.capacity, Vertex.decode bytes⟩ } :=
    congrArg Outcome.state (run_upload_of_fits hstored hle)
  have hheld : ((upload mesh bytes).run r).state.meshVertices mesh =
      some (Vertex.decode bytes) := by
    rw [hstate, meshVertices, Table.get?_insert_self]
    rfl
  refine ⟨⟨_, hheld, Vertex.length_decode bytes⟩, fun vertices => ?_,
    fun vertices rest hbytes hrest => ?_, fun ρ => ?_, fun ρ hρ => ?_, ?_⟩
  · rw [hheld, Option.some_inj, Vertex.encode_eq_leading_iff]
  · rw [hheld, hbytes, Vertex.decode_encode_append vertices hrest]
  · rw [hstate, form, kept_upload]
    split
    · rename_i hρ
      rw [hρ, form, kept, hstored]
      rfl
    · rfl
  · rw [hstate, kept_upload, if_neg hρ]
  · rw [hstate]

theorem state_upload_of_not_takes (h : ¬ r.Takes mesh bytes) :
    ((upload mesh bytes).run r).state = r := by
  rw [upload, Action.run_get_bind]
  cases hmesh : r.meshes.get? mesh with
  | none => rfl
  | some stored =>
      have hlt : stored.capacity < bytes.length := Nat.not_le.1 fun hle => h ⟨stored, hmesh, hle⟩
      simp only [hlt, if_true]
      rfl

/-! ### Records -/

/-- What a step records: of a draw of which the draw state and the texture are alive, the call with
the first vertices of the mesh as it is, and nothing of any other step. -/
def snapshots (r : Recorder) : Step → List DrawRecord
  | .request (.draw call) =>
    match r.drawStates.get? call.drawState with
    | some mesh =>
      if r.alive (.texture call.texture) then [⟨call, r.shown mesh call.vertices⟩] else []
    | none => []
  | _ => []

/-- What steps record, in order. -/
def recordedBy (r : Recorder) : List Step → List DrawRecord
  | [] => []
  | step :: more => r.snapshots step ++ recordedBy (r.step step) more

variable {call : DrawCall}

theorem snapshots_draw_of_alive (hmesh : r.drawStates.get? call.drawState = some mesh)
    (htexture : r.alive (.texture call.texture)) :
    r.snapshots (.request (.draw call)) = [⟨call, r.shown mesh call.vertices⟩] := by
  rw [snapshots, hmesh]
  exact if_pos htexture

theorem snapshots_draw_of_dead
    (h : ¬ (r.alive (.drawState call.drawState) ∧ r.alive (.texture call.texture))) :
    r.snapshots (.request (.draw call)) = [] := by
  rw [snapshots]
  cases hmesh : r.drawStates.get? call.drawState with
  | none => rfl
  | some mesh =>
      exact if_neg fun htexture => h ⟨Option.isSome_iff_exists.2 ⟨mesh, hmesh⟩, htexture⟩

theorem run_draw_of_alive (hmesh : r.drawStates.get? call.drawState = some mesh)
    (htexture : r.alive (.texture call.texture)) :
    (draw call).run r =
      ⟨.ok (), { r with draws := r.draws ++ [⟨call, r.shown mesh call.vertices⟩] }, []⟩ := by
  rw [draw, Action.run_get_bind, hmesh]
  exact congrArg (Action.run · r) (if_pos htexture)

theorem state_draw_of_dead
    (h : ¬ (r.alive (.drawState call.drawState) ∧ r.alive (.texture call.texture))) :
    ((draw call).run r).state = r := by
  rw [draw, Action.run_get_bind]
  cases hmesh : r.drawStates.get? call.drawState with
  | none => rfl
  | some mesh =>
      have hdead : ¬ r.alive (.texture call.texture) := fun htexture =>
        h ⟨Option.isSome_iff_exists.2 ⟨mesh, hmesh⟩, htexture⟩
      exact congrArg (fun action => (Action.run action r).state) (if_neg hdead)

theorem draws_draw (r : Recorder) (call : DrawCall) :
    ((draw call).run r).state.draws = r.draws ++ r.snapshots (.request (.draw call)) := by
  by_cases h : r.alive (.drawState call.drawState) ∧ r.alive (.texture call.texture)
  · obtain ⟨hdrawState, htexture⟩ := h
    obtain ⟨mesh, hmesh⟩ := Option.isSome_iff_exists.1 hdrawState
    rw [run_draw_of_alive hmesh htexture, snapshots_draw_of_alive hmesh htexture]
  · rw [state_draw_of_dead h, snapshots_draw_of_dead h, List.append_nil]

/-- Every step but a clearing leaves the records that there are, and adds its own. -/
theorem draws_step (r : Recorder) {step : Step} (h : step ≠ .clearDraws) :
    (r.step step).draws = r.draws ++ r.snapshots step := by
  cases step with
  | clearDraws => exact absurd rfl h
  | failOn kind => exact (List.append_nil r.draws).symm
  | request request =>
      by_cases hdraw : ∃ call, request = .draw call
      · obtain ⟨call, rfl⟩ := hdraw
        have hstate : (r.step (.request (.draw call))).draws = ((draw call).run r).state.draws := by
          rw [Recorder.step, DeviceRequest.run, Action.run_map]
          rfl
        rw [hstate, draws_draw]
      · have hnone : r.snapshots (.request request) = [] := by
          cases request with
          | draw call => exact absurd ⟨call, rfl⟩ hdraw
          | createMesh | createProgram | createDrawState | createTexture | destroy | upload => rfl
        rw [hnone, List.append_nil]
        exact (does_run request r).draws_eq fun call e => hdraw ⟨call, e⟩

theorem draws_after (r : Recorder) {steps : List Step} (h : ∀ step ∈ steps, step ≠ .clearDraws) :
    (r.after steps).draws = r.draws ++ r.recordedBy steps := by
  induction steps generalizing r with
  | nil => exact (List.append_nil _).symm
  | cons step more ih =>
      obtain ⟨hstep, hmore⟩ := List.forall_mem_cons.1 h
      rw [recordedBy, ← List.append_assoc, ← draws_step r hstep]
      exact ih _ hmore

/-! ### What records show -/

/-- On a recorder that any steps led to, an upload to a mesh that takes it leaves there the vertices
that the bytes make up, and any other upload changes nothing. A draw of which the draw state and the
texture are alive is recorded with the first vertices that its mesh holds at that time, of which
there are none if the mesh was destroyed, and any other draw is not recorded. Further steps leave
all records as they are and add those of their own draws behind them, until the records are
cleared. -/
theorem records_are_snapshots (steps : List Step) :
    let r := fresh.after steps
    (∀ mesh bytes,
        let r' := ((upload mesh bytes).run r).state
        (r.Takes mesh bytes → r.Refilled mesh bytes r') ∧ (¬ r.Takes mesh bytes → r' = r)) ∧
      (∀ call mesh, r.drawStates.get? call.drawState = some mesh →
        r.alive (.texture call.texture) →
          ((draw call).run r).state.draws =
              r.draws ++ [⟨call, ((r.meshVertices mesh).getD []).take call.vertices⟩] ∧
            (r.meshVertices mesh = none ↔ Destroys steps (.mesh mesh))) ∧
      (∀ call, ¬ (r.alive (.drawState call.drawState) ∧ r.alive (.texture call.texture)) →
        ((draw call).run r).state.draws = r.draws) ∧
      (∀ more, (∀ step ∈ more, step ≠ .clearDraws) →
        (r.after more).draws = r.draws ++ r.recordedBy more) ∧
      (r.step .clearDraws).draws = [] := by
  intro r
  refine ⟨fun mesh bytes => ⟨refilled_of_takes, state_upload_of_not_takes⟩,
    fun call mesh hmesh htexture => ⟨?_, meshVertices_eq_none_iff_destroys hmesh⟩,
    fun call hdead => ?_, fun more hmore => draws_after r hmore, rfl⟩
  · rw [draws_draw, snapshots_draw_of_alive hmesh htexture]
    rfl
  · rw [draws_draw, snapshots_draw_of_dead hdead, List.append_nil]

/-- A vertex of two different words that are no numbers, a negative zero and a one. -/
def oddVertex : Vertex := ⟨⟨0x7fc00001⟩, ⟨0xff812345⟩, ⟨0x80000000⟩, .one⟩

/-- Steps that make a draw state for a mesh with room for three vertices, and a texture. -/
def furnished : List Step :=
  [.request (.createMesh ⟨3, 16⟩), .request .createProgram,
    .request (.createDrawState ⟨1⟩ ⟨2⟩), .request (.createTexture ⟨1, 1, #[255, 255, 255, 255]⟩)]

/-- The bytes of two vertices with three more bytes behind them. -/
def ragged : List UInt8 := Vertex.encode [oddVertex, default] ++ [1, 2, 3]

/-- Steps in which draws take turns with uploads, one of them too long, and with the destruction of
the mesh and of the texture. -/
def wearing : List Step :=
  [.request (.upload ⟨1⟩ ragged), .request (.draw ⟨⟨3⟩, ⟨4⟩, 6⟩),
    .request (.upload ⟨1⟩ (List.replicate 49 0)), .request (.draw ⟨⟨3⟩, ⟨4⟩, 1⟩),
    .request (.upload ⟨1⟩ []), .failOn .mesh, .request (.createMesh ⟨3, 16⟩),
    .request (.destroy (.mesh ⟨1⟩)), .request (.draw ⟨⟨3⟩, ⟨4⟩, 6⟩),
    .request (.destroy (.texture ⟨4⟩)), .request (.draw ⟨⟨3⟩, ⟨4⟩, 6⟩)]

theorem records_are_snapshots_wearing :
    ((upload ⟨1⟩ ragged).run (fresh.after furnished)).state.meshVertices ⟨1⟩ =
        some [oddVertex, default] ∧
      ((upload ⟨1⟩ (List.replicate 49 0)).run (fresh.after furnished)).state =
        fresh.after furnished ∧
      (∀ step ∈ wearing, step ≠ .clearDraws) ∧
      ((fresh.after furnished).after wearing).draws =
        [⟨⟨⟨3⟩, ⟨4⟩, 6⟩, [oddVertex, default]⟩, ⟨⟨⟨3⟩, ⟨4⟩, 1⟩, [oddVertex]⟩,
          ⟨⟨⟨3⟩, ⟨4⟩, 6⟩, []⟩] ∧
      (fresh.after (furnished ++ wearing.take 8)).meshVertices ⟨1⟩ = none := by
  obtain ⟨hupload, -, -, hdraws, -⟩ := records_are_snapshots furnished
  have hclear : ∀ step ∈ wearing, step ≠ .clearDraws := by decide
  have hroom : (fresh.after furnished).Takes ⟨1⟩ ragged := ⟨⟨48, []⟩, rfl, by decide⟩
  have hlong : ¬ (fresh.after furnished).Takes ⟨1⟩ (List.replicate 49 0) := by
    rintro ⟨stored, hstored, hle⟩
    cases hstored
    simp at hle
  obtain ⟨-, hdraw, -⟩ := records_are_snapshots (furnished ++ wearing.take 8)
  have hdestroys : Destroys (furnished ++ wearing.take 8) (.mesh ⟨1⟩) :=
    ⟨furnished ++ wearing.take 7, [], rfl, rfl⟩
  exact ⟨((hupload ⟨1⟩ ragged).1 hroom).readBack _ _ rfl (by decide), (hupload ⟨1⟩ _).2 hlong,
    hclear, hdraws wearing hclear, (hdraw ⟨⟨3⟩, ⟨4⟩, 6⟩ ⟨1⟩ rfl rfl).2.2 hdestroys⟩

end Recorder

end Mosaic
