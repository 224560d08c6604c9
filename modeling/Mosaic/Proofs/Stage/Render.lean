import Mosaic.Proofs.Device.Records
import Mosaic.Proofs.Stage.Layout
import Mosaic.Proofs.Stage.Shared

/-!
# What a recorder records of a canvas

To render a canvas is to hand the bytes of its layout to its mesh and to draw all of it. On a
recorder that still has what the canvas holds, this adds one draw of just the vertices of the layout
and changes nothing else but the mesh of the canvas.
-/

namespace Mosaic

/-! ### Rendering the layout -/

namespace Canvas

variable {canvas : Canvas} {a : Active}

/-- A canvas with a layout lists its vertices. -/
theorem run_updateVertices_of_layout (h : canvas.active = some a) (hsound : canvas.Sound)
    {vertices : List Vertex} (hlayout : canvas.layout a.config = .ok vertices) :
    ∃ arena, updateVertices.run canvas = ⟨.ok (), { canvas with arena := arena }, []⟩ ∧
      arena.vertices = vertices ∧ arena.length = vertices.length := by
  have hrun := run_updateVertices h hsound
  rw [layout_eq_quadsOf] at hlayout
  cases hquads : (quadsOf canvas.sheet (a.config.columns * a.config.tileWidth)
      (a.config.rows * a.config.tileHeight) (canvas.pictures a.config)).2 with
  | error fault =>
      rw [hquads] at hlayout
      cases hlayout
  | ok u =>
      rw [hquads] at hlayout hrun
      cases hlayout
      refine ⟨_, hrun, ?_, ?_⟩
      · rw [Arena.vertices_writeAll (Arena.wellFormed_clear _), Arena.vertices_clear,
          List.nil_append]
      · rw [Arena.length_writeAll]
        exact Nat.zero_add _

theorem run_updateVertices_of_fault (h : canvas.active = some a) (hsound : canvas.Sound)
    {fault : Fault} (hlayout : canvas.layout a.config = .error fault) :
    ∃ arena, updateVertices.run canvas = ⟨.error fault, { canvas with arena := arena }, []⟩ := by
  have hrun := run_updateVertices h hsound
  rw [layout_eq_quadsOf] at hlayout
  cases hquads : (quadsOf canvas.sheet (a.config.columns * a.config.tileWidth)
      (a.config.rows * a.config.tileHeight) (canvas.pictures a.config)).2 with
  | error fault' =>
      rw [hquads] at hlayout hrun
      cases hlayout
      exact ⟨_, hrun⟩
  | ok u =>
      rw [hquads] at hlayout
      cases hlayout

/-- The bytes of a layout fit the mesh of a canvas. -/
theorem length_encode_of_layout (h : canvas.active = some a) (hsound : canvas.Sound)
    {vertices : List Vertex} (hlayout : canvas.layout a.config = .ok vertices) :
    (Vertex.encode vertices).length ≤ Stage.meshBytes := by
  have hpictures := length_pictures_le h hsound
  rw [Vertex.length_encode, length_of_layout hlayout, Stage.meshBytes, Limits.vertices,
    Nat.mul_comm Vertex.stride, Nat.mul_comm 6]
  exact Nat.mul_le_mul_right _ (Nat.mul_le_mul_right 6 hpictures)

theorem length_lt_of_layout (h : canvas.active = some a) (hsound : canvas.Sound)
    {vertices : List Vertex} (hlayout : canvas.layout a.config = .ok vertices) :
    vertices.length < Bounded.Width.bits32.count := by
  have hencode := length_encode_of_layout h hsound hlayout
  have hstride : vertices.length ≤ Vertex.stride * vertices.length :=
    Nat.le_mul_of_pos_left _ (by decide)
  rw [Vertex.length_encode] at hencode
  exact Nat.lt_of_le_of_lt (Nat.le_trans hstride hencode) (by decide)

end Canvas

namespace Stage

variable {δ : Type} [Device δ] {stage : Stage δ} {a : Active}

theorem layout_of_stopped {layout : Except Fault (List Vertex)} {fault : Fault}
    (h : Reply.vertices <$> layout = .error fault) : layout = .error fault := by
  cases layout <;> cases h
  rfl

/-- A canvas with a layout is rendered by what its device makes of the layout. -/
theorem run_render_of_layout (h : stage.canvas.active = some a) (hsound : stage.canvas.Sound)
    {vertices : List Vertex} (hlayout : stage.canvas.layout a.config = .ok vertices) {d d' : δ}
    {notes more : List Note}
    (hupload : (Device.upload a.resources.mesh (Vertex.encode vertices)).run stage.device =
      ⟨.ok (), d, notes⟩)
    (hdraw : (Device.draw ⟨a.resources.drawState, a.resources.texture, vertices.length⟩).run d =
      ⟨.ok (), d', more⟩) :
    ∃ arena line, render.run stage = ⟨.ok (), ⟨{ stage.canvas with arena := arena }, d'⟩,
      .log .trace line :: (notes ++ more)⟩ := by
  obtain ⟨arena, hrun, rfl, hlength⟩ := Canvas.run_updateVertices_of_layout h hsound hlayout
  rw [← hlength] at hdraw
  obtain ⟨line, hrender⟩ := run_render_of_ok h hrun hupload hdraw
  exact ⟨arena, line, hrender⟩

theorem run_render_of_layout_fault (h : stage.canvas.active = some a)
    (hsound : stage.canvas.Sound) {fault : Fault}
    (hlayout : stage.canvas.layout a.config = .error fault) :
    ∃ arena, render.run stage =
      ⟨.error fault, { stage with canvas := { stage.canvas with arena := arena } }, []⟩ := by
  obtain ⟨arena, hrun⟩ := Canvas.run_updateVertices_of_fault h hsound hlayout
  exact ⟨arena, run_render_of_fault h hrun⟩

end Stage

/-! ### On a recorder -/

namespace Recorder

/-- The recorder has what is needed to show a canvas with the resources. -/
structure Backs (r : Recorder) (set : ResourceSet) : Prop where
  mesh : ∃ stored, r.meshes.get? set.mesh = some stored ∧ stored.capacity = Stage.meshBytes
  drawState : r.drawStates.get? set.drawState = some set.mesh
  texture : r.textures.contains set.texture

/-- The recorder after a canvas was rendered. -/
def showing (r : Recorder) (set : ResourceSet) (vertices : List Vertex) : Recorder :=
  { r with
    meshes := r.meshes.insert set.mesh ⟨Stage.meshBytes, vertices⟩
    draws := r.draws ++ [⟨⟨set.drawState, set.texture, vertices.length⟩, vertices⟩] }

variable {r : Recorder} {set : ResourceSet} {vertices : List Vertex}

theorem run_upload_of_backs (h : r.Backs set)
    (hle : (Vertex.encode vertices).length ≤ Stage.meshBytes) :
    (Device.upload set.mesh (Vertex.encode vertices)).run r =
      ⟨.ok (), { r with meshes := r.meshes.insert set.mesh ⟨Stage.meshBytes, vertices⟩ }, []⟩ := by
  obtain ⟨⟨stored, hstored, hcapacity⟩, -, -⟩ := h
  change (upload set.mesh (Vertex.encode vertices)).run r = _
  rw [run_upload_of_fits hstored (hcapacity ▸ hle), hcapacity, Vertex.decode_encode]

theorem run_draw_of_backs (h : r.Backs set) :
    (Device.draw ⟨set.drawState, set.texture, vertices.length⟩).run
        { r with meshes := r.meshes.insert set.mesh ⟨Stage.meshBytes, vertices⟩ } =
      ⟨.ok (), r.showing set vertices, []⟩ := by
  obtain ⟨-, hdrawState, htexture⟩ := h
  change (draw ⟨set.drawState, set.texture, vertices.length⟩).run _ = _
  rw [draw, Action.run_get_bind]
  simp only [hdrawState, htexture, if_true, Action.run_modify, shown, meshVertices,
    Table.get?_insert_self, Option.map_some, Option.getD_some, List.take_length]
  rfl

theorem kept_showing (ρ : Resource) :
    (r.showing set vertices).kept ρ =
      if ρ = .mesh set.mesh then some (.mesh ⟨Stage.meshBytes, vertices⟩) else r.kept ρ := by
  rw [← kept_upload]
  cases ρ <;> rfl

theorem alive_showing (h : r.Backs set) (ρ : Resource) :
    (r.showing set vertices).alive ρ = r.alive ρ := by
  obtain ⟨⟨stored, hstored, -⟩, -, -⟩ := h
  rw [← isSome_kept, ← isSome_kept, kept_showing]
  split
  · rename_i hρ
    rw [hρ, kept, hstored]
    rfl
  · rfl

end Recorder

namespace Stage

/-- A canvas that a recorder backs is rendered by one record of its layout. -/
theorem run_render_of_backs {stage : Stage Recorder} {a : Active}
    (h : stage.canvas.active = some a) (hsound : stage.canvas.Sound)
    (hbacks : stage.device.Backs a.resources) {vertices : List Vertex}
    (hlayout : stage.canvas.layout a.config = .ok vertices) :
    ∃ arena line, render.run stage =
      ⟨.ok (), ⟨{ stage.canvas with arena := arena }, stage.device.showing a.resources vertices⟩,
        [.log .trace line]⟩ :=
  run_render_of_layout h hsound hlayout
    (Recorder.run_upload_of_backs hbacks (Canvas.length_encode_of_layout h hsound hlayout))
    (Recorder.run_draw_of_backs hbacks)

end Stage

namespace Shared

variable {s : Shared} {a : Active}

/-- A shared recorder backs what the canvas holds and did not lose. -/
theorem Accounted.backs (h : s.Accounted) (ha : s.stage.canvas.active = some a)
    (hmesh : ¬ CallLog.Lost s.log (.mesh a.resources.mesh))
    (hdrawState : ¬ CallLog.Lost s.log (.drawState a.resources.drawState))
    (htexture : ¬ CallLog.Lost s.log (.texture a.resources.texture)) :
    s.stage.device.Backs a.resources where
  mesh := by
    have hform := h.backed a ha (.mesh a.resources.mesh) (by simp [ResourceSet.toList]) hmesh
    obtain ⟨k, hkept, hk⟩ := Option.map_eq_some_iff.1 hform
    obtain ⟨stored, hstored, rfl⟩ := Option.map_eq_some_iff.1 hkept
    exact ⟨stored, hstored, (RecordedMesh.mk.inj (Kept.mesh.inj hk)).1⟩
  drawState := by
    have hform := h.backed a ha (.drawState a.resources.drawState) (by simp [ResourceSet.toList])
      hdrawState
    obtain ⟨k, hkept, hk⟩ := Option.map_eq_some_iff.1 hform
    obtain ⟨mesh, hmesh, rfl⟩ := Option.map_eq_some_iff.1 hkept
    cases hk
    exact hmesh
  texture := by
    have hform := h.backed a ha (.texture a.resources.texture) (by simp [ResourceSet.toList])
      htexture
    have halive : s.stage.device.alive (.texture a.resources.texture) := by
      rw [← Recorder.isSome_form, hform]
      rfl
    exact halive

/-- Over any run of a canvas on a recorder that others call as well, and whenever it is set up and
others did not destroy its mesh, its draw state or its texture: rendering adds one draw, which names
the draw state and the texture of the canvas, and six vertices for each tile and each slot that
shows a sprite, and which shows just the vertices that the canvas lists. Their bytes fit its mesh
and stand for them alone. All else that is kept stays, and so does the canvas but for its list.
Where the sheet does not know the place of a sprite, rendering stops as listing does and leaves the
recorder alone; a sheet that knows its own sprites makes both succeed. -/
theorem render_records_layout (sheet : Sheet) (turns : List Turn) (s : Shared)
    (hs : (fresh sheet).after turns = s) (a : Active) (ha : s.stage.canvas.active = some a)
    (hmesh : ¬ CallLog.Lost s.log (.mesh a.resources.mesh))
    (hdrawState : ¬ CallLog.Lost s.log (.drawState a.resources.drawState))
    (htexture : ¬ CallLog.Lost s.log (.texture a.resources.texture)) :
    let listed := (Stage.Command.updateVertices.run.run s.stage).result
    let outcome := Stage.render.run s.stage
    (∀ vertices, listed = .ok (.vertices vertices) →
      outcome.result = .ok () ∧
        (∃ tiles sprites, s.stage.canvas.occupied = .ok tiles ∧
          s.stage.canvas.activeSprites = .ok sprites ∧
          outcome.state.device.draws = s.stage.device.draws ++
            [⟨⟨a.resources.drawState, a.resources.texture, 6 * (tiles + sprites)⟩, vertices⟩] ∧
          vertices.length = 6 * (tiles + sprites)) ∧
        (∃ stored, s.stage.device.meshes.get? a.resources.mesh = some stored ∧
          (Vertex.encode vertices).length ≤ stored.capacity ∧
          Vertex.decode (Vertex.encode vertices) = vertices ∧
          outcome.state.device.meshes.get? a.resources.mesh = some ⟨stored.capacity, vertices⟩) ∧
        (∀ ρ, ρ ≠ .mesh a.resources.mesh →
          outcome.state.device.kept ρ = s.stage.device.kept ρ) ∧
        (∀ ρ, outcome.state.device.alive ρ = s.stage.device.alive ρ) ∧
        s.stage.canvas.KeepsCells outcome.state.canvas) ∧
      (∀ fault, listed = .error fault →
        outcome.result = .error fault ∧ outcome.state.device = s.stage.device ∧
          s.stage.canvas.KeepsCells outcome.state.canvas) ∧
      ((∀ id, sheet.Contains id → ∃ uv, sheet.uv id = .ok uv) →
        ∃ vertices, listed = .ok (.vertices vertices)) := by
  have h : s.Accounted := hs ▸ accounted_after sheet turns
  have hsound : s.stage.canvas.Sound := hs ▸ sound_after sheet turns
  have hsheet : s.stage.canvas.sheet = sheet := hs ▸ (keeps_after (fresh sheet) turns).sheet
  have hbacks := h.backs ha hmesh hdrawState htexture
  have hresult := Stage.result_updateVertices ha hsound
  refine ⟨fun vertices hlisted => ?_, fun fault hlisted => ?_, fun huv => ?_⟩
  · have hlayout := Stage.layout_of_listed (hresult.symm.trans hlisted)
    obtain ⟨arena, line, hrun⟩ := Stage.run_render_of_backs ha hsound hbacks hlayout
    have hlength := Canvas.length_of_layout hlayout
    rw [Canvas.pictures, List.length_append] at hlength
    obtain ⟨stored, hstored, hcapacity⟩ := hbacks.mesh
    have hfits := Canvas.length_encode_of_layout ha hsound hlayout
    rw [hrun]
    refine ⟨rfl, ⟨_, _, Canvas.occupied_eq ha (hsound.fits a ha) hsound.size_tiles,
      Canvas.activeSprites_eq ha (hsound.slots_le_size ha), ?_, hlength⟩,
      ⟨stored, hstored, hcapacity ▸ hfits, Vertex.decode_encode vertices, ?_⟩,
      fun ρ hρ => ?_, fun ρ => ?_, arena, rfl⟩
    · rw [← hlength]
      rfl
    · rw [hcapacity]
      exact Table.get?_insert_self _ _ _
    · exact (Recorder.kept_showing ρ).trans (if_neg hρ)
    · exact Recorder.alive_showing hbacks ρ
  · have hlayout := Stage.layout_of_stopped (hresult.symm.trans hlisted)
    obtain ⟨arena, hrun⟩ := Stage.run_render_of_layout_fault ha hsound hlayout
    rw [hrun]
    exact ⟨rfl, rfl, arena, rfl⟩
  · obtain ⟨vertices, hlayout⟩ := Canvas.exists_layout ha hsound (hsheet ▸ huv)
    exact ⟨vertices, by rw [hresult, hlayout]; rfl⟩

/-- A run in which others make, fill and draw meshes of their own between the operations of a canvas
with one tile. -/
def busyRun : List Turn := [
  .others (.createMesh ⟨6, 16⟩),
  .canvas (.command (.setup .standard)),
  .canvas (.command (.setTile (some ⟨0⟩) 3 4)),
  .others (.upload ⟨1⟩ (List.replicate 16 0)),
  .others (.destroy (.mesh ⟨1⟩)),
  .others (.draw ⟨⟨4⟩, ⟨5⟩, 6⟩)]

theorem render_records_layout_busyRun :
    let s := (fresh Stage.straySheet).after busyRun
    (s.stage.canvas.resources = some ⟨⟨2⟩, ⟨3⟩, ⟨4⟩, ⟨5⟩⟩ ∧ s.stage.canvas.occupied = .ok 1) ∧
      ∃ vertices, vertices.length = 6 ∧ (Stage.render.run s.stage).state.device.draws =
        s.stage.device.draws ++ [⟨⟨⟨4⟩, ⟨5⟩, 6⟩, vertices⟩] := by
  intro s
  have hactive : s.stage.canvas.active = some ⟨.standard, ⟨2⟩, ⟨3⟩, ⟨4⟩, ⟨5⟩⟩ := by
    decide +kernel
  have htiles : s.stage.canvas.occupied = .ok 1 := by decide +kernel
  have hslots : s.stage.canvas.activeSprites = .ok 0 := by decide +kernel
  have hlost : ∀ ρ ∈ (ResourceSet.mk ⟨2⟩ ⟨3⟩ ⟨4⟩ ⟨5⟩).toList, ¬ CallLog.Lost s.log ρ := by
    decide +kernel
  obtain ⟨hshown, -, hlisted⟩ := render_records_layout Stage.straySheet busyRun s rfl _ hactive
    (hlost _ (by decide)) (hlost _ (by decide)) (hlost _ (by decide))
  obtain ⟨vertices, hvertices⟩ := hlisted fun id _ => ⟨default, rfl⟩
  obtain ⟨-, ⟨tiles, sprites, htiles', hslots', hdraws, hlength⟩, -⟩ := hshown vertices hvertices
  rw [htiles] at htiles'
  rw [hslots] at hslots'
  cases htiles'
  cases hslots'
  refine ⟨⟨?_, htiles⟩, vertices, hlength, hdraws⟩
  rw [Canvas.resources, hactive]
  rfl

end Shared

end Mosaic
