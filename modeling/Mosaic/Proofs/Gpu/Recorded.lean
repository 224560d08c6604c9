import Mosaic.Proofs.Device.Records
import Mosaic.Proofs.Gpu.InStep
import Mosaic.Proofs.Gpu.Waiting

/-!
# Recorded draws and encoded draws

A recorder stands in for a queueing device whose draws are encoded as soon as they are asked for
(`GpuRun.Prompt`). Both pass over a draw of which the draw state or the texture is not alive, and
both carry out one of which these and the mesh of the draw state are. They part where the draw state
has outlived its mesh: the recorder records a draw without vertices, and the queueing device leaves
the draw out.
-/

namespace Mosaic

/-- The recorder adds the record to its draws when it is asked for the draw. -/
def Recorder.Records (r : Recorder) (call : DrawCall) (record : DrawRecord) : Prop :=
  ((draw call).run r).state.draws = r.draws ++ [record]

/-- The device adds the draw to those of its passes when it is asked for the draw and then to
encode. -/
def GpuRun.Encodes (run : GpuRun) (call : DrawCall) (clear : Colour) (viewport : Viewport)
    (draw : PassDraw) : Prop :=
  drawnBy (run.after [.request (.draw call), .encode clear viewport]).notes =
    drawnBy run.notes ++ [draw]

/-- The steps are the requests, with an encoding directly after each draw. -/
inductive GpuRun.Prompt : List DeviceRequest → List GpuStep → Prop
  | nil : Prompt [] []
  | draw (call : DrawCall) (clear : Colour) (viewport : Viewport) {requests : List DeviceRequest}
      {steps : List GpuStep} (h : Prompt requests steps) :
      Prompt (.draw call :: requests)
        (.request (.draw call) :: .encode clear viewport :: steps)
  | other (request : DeviceRequest) (hdraw : ∀ call, request ≠ .draw call)
      {requests : List DeviceRequest} {steps : List GpuStep} (h : Prompt requests steps) :
      Prompt (request :: requests) (.request request :: steps)

/-- Without draws there is nothing to encode. -/
theorem GpuRun.Prompt.of_no_draw {requests : List DeviceRequest}
    (h : ∀ request ∈ requests, ∀ call, request ≠ .draw call) :
    Prompt requests (requests.map .request) := by
  induction requests with
  | nil => exact .nil
  | cons request rest ih =>
      obtain ⟨hfirst, hrest⟩ := List.forall_mem_cons.1 h
      exact .other request hfirst (ih hrest)

namespace Recorder

/-- A draw is recorded if its draw state and its texture are alive. -/
theorem records_iff {r : Recorder} {call : DrawCall} {record : DrawRecord} :
    r.Records call record ↔
      ∃ mesh, r.drawStates.get? call.drawState = some mesh ∧ r.alive (.texture call.texture) ∧
        record = ⟨call, r.shown mesh call.vertices⟩ := by
  rw [Records, draws_draw, List.append_cancel_left_eq, snapshots]
  cases r.drawStates.get? call.drawState with
  | none => simp
  | some mesh => by_cases htexture : r.alive (.texture call.texture) <;> simp [htexture, eq_comm]

theorem shown_of_dead {r : Recorder} {mesh : MeshId} (h : r.alive (.mesh mesh) = false)
    (count : Nat) : r.shown mesh count = [] := by
  have hmesh : r.meshes.get? mesh = none := by
    rw [alive, Table.contains, Option.isSome_eq_false_iff] at h
    exact Option.isNone_iff_eq_none.1 h
  rw [shown, meshVertices, hmesh]
  exact List.take_nil

end Recorder

namespace GpuDevice

variable {limits : GpuLimits} {device : GpuDevice} {r : Recorder}

/-- On a device with a twin, a draw can be carried out if its draw state, its texture and the mesh
of the draw state are alive. -/
theorem Twin.isSome_passDraw (h : Twin limits device r) (call : DrawCall) :
    (∃ draw, device.passDraw call = some draw) ↔
      ∃ mesh, r.drawStates.get? call.drawState = some mesh ∧ r.alive (.texture call.texture) ∧
        r.alive (.mesh mesh) := by
  rw [passDraw, h.drawStates, h.textures]
  cases r.drawStates.get? call.drawState with
  | none => simp
  | some mesh =>
      have hmesh : device.meshes.contains mesh = r.meshes.contains mesh := h.alive (.mesh mesh)
      simp [Recorder.alive, hmesh]

end GpuDevice

namespace GpuRun

variable {limits : GpuLimits} {run : GpuRun} {r : Recorder}

/-- The device has a twin and no draw waits. -/
structure Shadowed (limits : GpuLimits) (run : GpuRun) (r : Recorder) : Prop where
  twin : GpuDevice.Twin limits run.device r
  pending : run.device.pending = .empty

/-- With no draw waiting, a draw that is encoded at once makes up the pass, if it can be carried
out. -/
theorem Shadowed.drawnBy_eq (h : Shadowed limits run r) {call : DrawCall}
    (hpos : 0 < call.vertices) (clear : Colour) (viewport : Viewport) :
    drawnBy (run.after [.request (.draw call), .encode clear viewport]).notes =
      drawnBy run.notes ++ (run.device.passDraw call).toList := by
  obtain ⟨notes, hencode, heffects⟩ := GpuDevice.run_encode clear viewport
    { run.device with pending := run.device.pending.push call }
  have hnotes : (run.after [.request (.draw call), .encode clear viewport]).notes =
      run.notes ++ ((DeviceRequest.draw call).run.run run.device).notes ++
        ((GpuDevice.encode clear viewport).run
          { run.device with pending := run.device.pending.push call }).notes := rfl
  have hvisible : (run.device.pending.push call).visible = [call] := by
    rw [h.pending, DrawQueue.visible_push_empty, if_pos hpos]
  rw [hnotes, hencode, drawnBy_append, drawnBy_append, GpuDevice.drawnBy_run, List.append_nil,
    ← drawnBy_effects notes, heffects, drawnBy_passCommands, hvisible, List.filterMap_cons,
    List.filterMap_nil]
  have hsame : GpuDevice.passDraw { run.device with pending := run.device.pending.push call } call =
      run.device.passDraw call := rfl
  rw [hsame]
  cases run.device.passDraw call <;> rfl

theorem Shadowed.request (h : Shadowed limits run r) {request : DeviceRequest}
    (hwithin : request.Within limits) (hdraw : ∀ call, request ≠ .draw call) :
    Shadowed limits (run.step (.request request)) (request.run.run r).state := by
  refine ⟨(GpuDevice.matches_run hwithin run.device r h.twin).2, ?_⟩
  have hcalls := (run.device.does_run request).pending_eq
  have hnone : request.draws = [] := by
    cases request with
    | draw call => exact absurd rfl (hdraw call)
    | _ => rfl
  rw [hnone, h.pending] at hcalls
  exact congrArg DrawQueue.mk hcalls

theorem Shadowed.draw (h : Shadowed limits run r) (call : DrawCall) (clear : Colour)
    (viewport : Viewport) :
    Shadowed limits (run.after [.request (.draw call), .encode clear viewport])
      ((DeviceRequest.draw call).run.run r).state := by
  obtain ⟨notes, hencode, -⟩ := GpuDevice.run_encode clear viewport
    { run.device with pending := run.device.pending.push call }
  have hdevice : (run.after [.request (.draw call), .encode clear viewport]).device =
      { run.device with pending := .empty } := congrArg Outcome.state hencode
  have hwithin : (DeviceRequest.draw call).Within limits := trivial
  have htwin := (GpuDevice.matches_run hwithin run.device r h.twin).2
  exact ⟨hdevice ▸ { htwin with }, congrArg GpuDevice.pending hdevice⟩

theorem Shadowed.after (h : Shadowed limits run r) {requests : List DeviceRequest}
    {steps : List GpuStep} (hprompt : Prompt requests steps)
    (hwithin : ∀ request ∈ requests, request.Within limits) :
    Shadowed limits (run.after steps) (Device.after r requests) := by
  induction hprompt generalizing run r with
  | nil => exact h
  | draw call clear viewport _ ih =>
      exact ih (h.draw call clear viewport) fun q hq => hwithin q (List.mem_cons_of_mem _ hq)
  | other request hdraw _ ih =>
      exact ih (h.request (hwithin request List.mem_cons_self) hdraw) fun q hq =>
        hwithin q (List.mem_cons_of_mem _ hq)

/-- Ask a recorder and a queueing device, of which neither was asked anything yet, any requests for
nothing larger than the graphics processor allows, and encode each draw directly after it was asked
for. A draw of some vertices that is asked for next is recorded by the one just when it is encoded
by the other, but where its draw state and its texture are alive and the mesh of the draw state is
not. There it is not encoded, and recorded without vertices. With the mesh alive as well it is
encoded and recorded, and without the draw state or the texture neither. -/
theorem records_iff_encodes (limits : GpuLimits) {requests : List DeviceRequest}
    {steps : List GpuStep} (hprompt : Prompt requests steps)
    (hwithin : ∀ request ∈ requests, request.Within limits) (call : DrawCall)
    (hpos : 0 < call.vertices) (clear : Colour) (viewport : Viewport) :
    let r := Device.after Recorder.fresh requests
    let run := (start limits).after steps
    let complete := ∃ mesh, r.drawStates.get? call.drawState = some mesh ∧
      r.alive (.texture call.texture) ∧ r.alive (.mesh mesh)
    let released := ∃ mesh, r.drawStates.get? call.drawState = some mesh ∧
      r.alive (.texture call.texture) ∧ ¬ r.alive (.mesh mesh)
    (((∃ record, r.Records call record) ↔ ∃ draw, run.Encodes call clear viewport draw) ↔
        ¬ released) ∧
      ((∃ draw, run.Encodes call clear viewport draw) ↔ complete) ∧
      ((∃ record, r.Records call record) ↔ complete ∨ released) ∧
      (released → r.Records call ⟨call, []⟩) := by
  intro r run complete released
  have hfresh : Shadowed limits (start limits) .fresh := ⟨GpuDevice.twin_fresh limits, rfl⟩
  have h : Shadowed limits run r := hfresh.after hprompt hwithin
  have hencodes : (∃ draw, run.Encodes call clear viewport draw) ↔ complete := by
    refine Iff.trans (exists_congr fun draw => ?_) (h.twin.isSome_passDraw call)
    rw [Encodes, h.drawnBy_eq hpos, List.append_cancel_left_eq]
    cases run.device.passDraw call <;> simp
  have hrecords : (∃ record, r.Records call record) ↔ complete ∨ released := by
    simp only [Recorder.records_iff]
    constructor
    · rintro ⟨_, mesh, hmesh, htexture, -⟩
      by_cases halive : r.alive (.mesh mesh)
      · exact .inl ⟨mesh, hmesh, htexture, halive⟩
      · exact .inr ⟨mesh, hmesh, htexture, halive⟩
    · rintro (⟨mesh, hmesh, htexture, -⟩ | ⟨mesh, hmesh, htexture, -⟩) <;>
        exact ⟨_, mesh, hmesh, htexture, rfl⟩
  have hapart : complete → ¬ released := by
    rintro ⟨mesh, hmesh, -, halive⟩ ⟨mesh', hmesh', -, hdead⟩
    cases hmesh.symm.trans hmesh'
    exact hdead halive
  refine ⟨?_, hencodes, hrecords, ?_⟩
  · rw [hencodes, hrecords]
    constructor
    · intro hiff hreleased
      exact hapart (hiff.1 (.inr hreleased)) hreleased
    · exact or_iff_left
  · rintro ⟨mesh, hmesh, htexture, hdead⟩
    refine Recorder.records_iff.2 ⟨mesh, hmesh, htexture, ?_⟩
    rw [Recorder.shown_of_dead (Bool.eq_false_iff.2 hdead)]

/-- Requests after which a draw state has its mesh, but not its program. -/
def stripped : List DeviceRequest :=
  [.createMesh ⟨6, 16⟩, .createProgram, .createDrawState ⟨1⟩ ⟨2⟩,
    .createTexture ⟨1, 1, #[255, 255, 255, 255]⟩, .draw ⟨⟨3⟩, ⟨4⟩, 3⟩, .destroy (.program ⟨2⟩)]

/-- The steps of `stripped`, the draw of which is encoded. -/
def strippedSteps : List GpuStep :=
  [.request (.createMesh ⟨6, 16⟩), .request .createProgram,
    .request (.createDrawState ⟨1⟩ ⟨2⟩), .request (.createTexture ⟨1, 1, #[255, 255, 255, 255]⟩),
    .request (.draw ⟨⟨3⟩, ⟨4⟩, 3⟩), .encode .black ⟨0, 0, 8, 8⟩,
    .request (.destroy (.program ⟨2⟩))]

theorem records_iff_encodes_stripped :
    (Prompt stripped strippedSteps ∧ ∀ request ∈ stripped, request.Within .standard) ∧
      drawnBy ((start .standard).after strippedSteps).notes = [⟨⟨3⟩, ⟨4⟩, ⟨1⟩, 3⟩] ∧
      (∃ record, (Device.after Recorder.fresh stripped).Records ⟨⟨3⟩, ⟨4⟩, 6⟩ record) ∧
      ∃ draw, ((start .standard).after strippedSteps).Encodes ⟨⟨3⟩, ⟨4⟩, 6⟩ .black ⟨0, 0, 8, 8⟩
        draw := by
  have hprompt : Prompt stripped strippedSteps :=
    .other _ (by nofun) <| .other _ (by nofun) <| .other _ (by nofun) <| .other _ (by nofun) <|
      .draw _ _ _ <| .other _ (by nofun) .nil
  have hwithin : ∀ request ∈ stripped, request.Within .standard := by
    simp only [stripped, List.forall_mem_cons]
    exact ⟨⟨96, rfl, by decide⟩, trivial, trivial, ⟨by decide, by decide⟩, trivial, trivial, nofun⟩
  obtain ⟨hiff, hencodes, -, -⟩ := records_iff_encodes .standard hprompt hwithin ⟨⟨3⟩, ⟨4⟩, 6⟩
    (by decide) .black ⟨0, 0, 8, 8⟩
  have hencoded := hencodes.2 ⟨⟨1⟩, rfl, rfl, rfl⟩
  refine ⟨⟨hprompt, hwithin⟩, rfl, (hiff.2 ?_).2 hencoded, hencoded⟩
  rintro ⟨mesh, hmesh, -, hdead⟩
  cases hmesh
  exact hdead rfl

/-- Requests after which a draw state has outlived its mesh. -/
def orphaned : List DeviceRequest :=
  [.createMesh ⟨6, 16⟩, .createProgram, .createDrawState ⟨1⟩ ⟨2⟩,
    .createTexture ⟨1, 1, #[255, 255, 255, 255]⟩, .destroy (.mesh ⟨1⟩)]

/-- All creations succeed on both devices, and a draw of as many vertices as the mesh had room for
is recorded by the one and not encoded by the other. -/
theorem recorded_not_encoded_orphaned :
    Prompt orphaned (orphaned.map .request) ∧
      ((∀ call ∈ Device.calls Recorder.fresh orphaned, call.request.isCreation →
          call.made.isSome) ∧
        ∀ call ∈ Device.calls GpuDevice.fresh orphaned, call.request.isCreation →
          call.made.isSome) ∧
      ¬ ((∃ record, (Device.after Recorder.fresh orphaned).Records ⟨⟨3⟩, ⟨4⟩, 6⟩ record) ↔
        ∃ draw, ((start .standard).after (orphaned.map .request)).Encodes ⟨⟨3⟩, ⟨4⟩, 6⟩ .black
          ⟨0, 0, 8, 8⟩ draw) := by
  have hdraws : ∀ request ∈ orphaned, ∀ call, request ≠ .draw call := by
    simp only [orphaned, List.forall_mem_cons]
    exact ⟨nofun, nofun, nofun, nofun, nofun, nofun⟩
  refine ⟨.of_no_draw hdraws, ⟨by decide +kernel, by decide +kernel⟩, fun hiff => ?_⟩
  obtain ⟨draw, hdraw⟩ := hiff.1 ⟨⟨⟨⟨3⟩, ⟨4⟩, 6⟩, []⟩, rfl⟩
  have hnone : drawnBy (((start .standard).after (orphaned.map .request)).after
      [.request (.draw ⟨⟨3⟩, ⟨4⟩, 6⟩), .encode .black ⟨0, 0, 8, 8⟩]).notes = [] := rfl
  rw [Encodes, hnone] at hdraw
  simp at hdraw

end GpuRun

end Mosaic
