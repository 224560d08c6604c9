import Mosaic.Proofs.Gpu.Creation
import Mosaic.Proofs.Gpu.Encode
import Mosaic.Proofs.Gpu.Held

/-!
# From the queue to the passes

A `GpuRun` takes a queueing device through requests, droppings and encodings in any order and keeps
what happened. The calls that wait, what is alive and the mesh of a draw state can be told from the
past alone (`waiting`, `standing`, `meshOf`), and a pass that is encoded now consists of the draws
that the past tells of, in the order in which they were queued. No draw of the passes is of a call
that was drawn before (`encode_waiting`).
-/

namespace Mosaic

/-- The call that a draw of a pass carries out. -/
def PassDraw.call (draw : PassDraw) : DrawCall := ⟨draw.drawState, draw.texture, draw.vertices⟩

/-- The draw that a note commands. -/
def Note.passDraw? : Note → Option PassDraw
  | .gpu (.draw draw) => some draw
  | _ => none

/-- The draws that notes command, in order. -/
def drawnBy (notes : List Note) : List PassDraw := notes.filterMap Note.passDraw?

/-- The draw that is asked for. -/
def DeviceRequest.draws : DeviceRequest → List DrawCall
  | draw call => [call]
  | _ => []

/-- The mesh for which a draw state is asked for. -/
def DeviceRequest.mesh? : DeviceRequest → Option MeshId
  | createDrawState mesh _ => some mesh
  | _ => none

/-- The mesh of a draw state, if the call made it. -/
def DeviceCall.binds (drawState : DrawStateId) (call : DeviceCall) : Option MeshId :=
  if call.made = some (.drawState drawState) then call.request.mesh? else none

/-- What a queueing device is told to do. -/
inductive GpuStep where
  | request (request : DeviceRequest)
  /-- To drop the draws that wait. -/
  | drop
  /-- To encode the draws that wait. -/
  | encode (clear : Colour) (viewport : Viewport)

/-- What happened to a queueing device. -/
inductive GpuEvent where
  | called (call : DeviceCall)
  | dropped
  | encoded

namespace GpuEvent

/-- The resource was made and not destroyed since. The past has its events newest first. -/
def standing : List GpuEvent → Resource → Bool
  | [], _ => false
  | .called call :: past, ρ =>
    if call.made = some ρ then true
    else if call.request = .destroy ρ then false
    else standing past ρ
  | _ :: past, ρ => standing past ρ

/-- The mesh for which a draw state was made. -/
def meshOf : List GpuEvent → DrawStateId → Option MeshId
  | [], _ => none
  | .called call :: past, drawState => (call.binds drawState).or (meshOf past drawState)
  | _ :: past, drawState => meshOf past drawState

/-- The draws that were asked for since draws were last dropped or encoded, oldest first. -/
def waiting : List GpuEvent → List DrawCall
  | .called call :: past => waiting past ++ call.request.draws
  | _ => []

/-- The draws that were asked for, oldest first. -/
def submitted : List GpuEvent → List DrawCall
  | [] => []
  | .called call :: past => submitted past ++ call.request.draws
  | _ :: past => submitted past

/-- The draw that a call becomes: if it has vertices and its draw state, the mesh of that and its
texture are standing, these vertices of the mesh with the draw state and the texture. -/
def drawable (past : List GpuEvent) (call : DrawCall) : Option PassDraw :=
  (meshOf past call.drawState).bind fun mesh =>
    if 0 < call.vertices ∧ standing past (.drawState call.drawState) ∧ standing past (.mesh mesh) ∧
        standing past (.texture call.texture) then
      some ⟨call.drawState, call.texture, mesh, call.vertices⟩
    else none

end GpuEvent

/-- A queueing device with what happened to it, newest first, and what it noted. -/
structure GpuRun where
  device : GpuDevice
  past : List GpuEvent
  notes : List Note

namespace GpuRun

open GpuEvent

/-- A device with the given limits that was not asked anything yet. -/
def start (limits : GpuLimits) : GpuRun := ⟨{ GpuDevice.fresh with limits }, [], []⟩

/-- The run after one more step. -/
def step (run : GpuRun) : GpuStep → GpuRun
  | .request request =>
    let outcome := request.run.run run.device
    ⟨outcome.state, .called ⟨request, outcome.result⟩ :: run.past, run.notes ++ outcome.notes⟩
  | .drop =>
    let outcome := GpuDevice.discardPending.run run.device
    ⟨outcome.state, .dropped :: run.past, run.notes ++ outcome.notes⟩
  | .encode clear viewport =>
    let outcome := (GpuDevice.encode clear viewport).run run.device
    ⟨outcome.state, .encoded :: run.past, run.notes ++ outcome.notes⟩

/-- The run after several steps. -/
def after (run : GpuRun) (steps : List GpuStep) : GpuRun := steps.foldl step run

end GpuRun

/-! ### The draws among notes -/

theorem drawnBy_append (first second : List Note) :
    drawnBy (first ++ second) = drawnBy first ++ drawnBy second := List.filterMap_append

theorem drawnBy_effects (notes : List Note) : drawnBy (effects notes) = drawnBy notes := by
  rw [drawnBy, effects, List.filterMap_filter]
  refine congrArg (List.filterMap · notes) (funext fun n => ?_)
  cases n <;> rfl

theorem drawnBy_drawCommands (draws : List PassDraw) :
    drawnBy (GpuDevice.drawCommands draws) = draws := by
  rw [drawnBy, GpuDevice.drawCommands, List.filterMap_map]
  exact List.filterMap_some

theorem drawnBy_passCommands (clear : Colour) (viewport : Viewport) (draws : List PassDraw) :
    drawnBy (GpuDevice.passCommands clear viewport draws) = draws := by
  change drawnBy (GpuDevice.drawCommands draws ++ [.gpu .submit]) = draws
  rw [drawnBy_append, drawnBy_drawCommands]
  exact List.append_nil draws

namespace GpuDevice

/-- Resources are made and destroyed, and bytes are written, without a draw. -/
theorem drawnBy_run (request : DeviceRequest) (device : GpuDevice) :
    drawnBy (request.run.run device).notes = [] := by
  have hadmits : Admits fun n => n.passDraw? = none :=
    ⟨fun _ _ => rfl, fun _ _ _ _ => rfl, fun _ _ => rfl⟩
  exact List.filterMap_eq_nil_iff.2 (notesOnly_run hadmits request device)

/-- To drop the draws that wait commands nothing. -/
theorem run_discardPending (device : GpuDevice) :
    ∃ notes, discardPending.run device = ⟨.ok (), { device with pending := .empty }, notes⟩ ∧
      effects notes = [] := by
  rw [discardPending, Action.run_get_bind, Action.run_modify_bind]
  split
  · exact ⟨_, rfl, rfl⟩
  · exact ⟨_, rfl, rfl⟩

end GpuDevice

/-! ### What one call changes -/

namespace GpuDevice

variable {device device' : GpuDevice} {call : DeviceCall}

theorem isCreation_of_holds {request : DeviceRequest} {held : Held} (h : request.Holds held) :
    request.isCreation := by
  cases request with
  | createMesh | createProgram | createDrawState | createTexture => rfl
  | destroy | upload | draw => cases h

theorem ne_destroy_of_isCreation {request : DeviceRequest} (h : request.isCreation)
    (ρ : Resource) : request ≠ .destroy ρ := by
  rintro rfl
  cases h

theorem draws_of_isCreation {request : DeviceRequest} (h : request.isCreation) :
    request.draws = [] := by
  cases request with
  | createMesh | createProgram | createDrawState | createTexture => rfl
  | destroy | upload | draw => cases h

/-- What is alive after a call: what it made, and what was alive before and not to be destroyed. -/
theorem Does.alive_eq (h : Does device call device') (ρ : Resource) :
    device'.alive ρ =
      if call.made = some ρ then true
      else if call.request = .destroy ρ then false
      else device.alive ρ := by
  have hmade {held : Held} : (device.gain held).alive ρ =
      if ρ = held.resource (device.lastId + 1) then true else device.alive ρ := by
    rw [← isSome_held, ← isSome_held, held_gain]
    split <;> rfl
  have hgone {σ : Resource} : (device.remove σ).alive ρ =
      if ρ = σ then false else device.alive ρ := by
    rw [← isSome_held, ← isSome_held, held_remove]
    split <;> rfl
  cases h with
  | made request held hholds =>
      have hrequest := ne_destroy_of_isCreation (isCreation_of_holds hholds) ρ
      simp [hmade, DeviceCall.making, DeviceCall.made, hrequest, eq_comm]
  | refused request e hcreation =>
      simp [DeviceCall.refusing, DeviceCall.made, ne_destroy_of_isCreation hcreation ρ]
  | stopped request fault hcreation =>
      simp [DeviceCall.made, ne_destroy_of_isCreation hcreation ρ]
  | destroyed σ => simp [hgone, DeviceCall.doing, DeviceCall.made, eq_comm]
  | queued call => cases ρ <;> rfl
  | ignored request hcreation hdead hdraw =>
      by_cases hrequest : request = .destroy ρ
      · simp [DeviceCall.doing, DeviceCall.made, hrequest, hdead ρ hrequest]
      · simp [DeviceCall.doing, DeviceCall.made, hrequest]

/-- A draw state is bound to the mesh for which it was made. -/
theorem Does.bound (h : Does device call device') {drawState : DrawStateId} {mesh : MeshId}
    (hheld : device'.held (.drawState drawState) = some (.drawState mesh)) :
    call.binds drawState = some mesh ∨
      call.binds drawState = none ∧
        device.held (.drawState drawState) = some (.drawState mesh) := by
  cases h with
  | made request held hholds =>
      rw [held_gain] at hheld
      rw [DeviceCall.binds, DeviceCall.made_making]
      split at hheld
      · rename_i hresource
        cases hheld
        cases request with
        | createDrawState other program =>
            cases hholds
            exact .inl (if_pos (congrArg some hresource.symm))
        | createMesh | createProgram | createTexture | destroy | upload | draw => cases hholds
      · rename_i hresource
        exact .inr ⟨if_neg fun h => hresource (Option.some.inj h).symm, hheld⟩
  | destroyed σ =>
      rw [held_remove] at hheld
      split at hheld
      · cases hheld
      · exact .inr ⟨rfl, hheld⟩
  | refused | stopped | queued | ignored => exact .inr ⟨rfl, hheld⟩

/-- A draw is queued behind those that wait, and no other call changes the queue. -/
theorem Does.pending_eq (h : Does device call device') :
    device'.pending.calls = device.pending.calls ++ call.request.draws := by
  cases h with
  | made request held hholds =>
      rw [pending_gain, DeviceCall.making, draws_of_isCreation (isCreation_of_holds hholds),
        List.append_nil]
  | refused request e hcreation =>
      rw [DeviceCall.refusing, draws_of_isCreation hcreation, List.append_nil]
  | stopped request fault hcreation => rw [draws_of_isCreation hcreation, List.append_nil]
  | destroyed σ => rw [pending_remove]; exact (List.append_nil _).symm
  | queued call => rfl
  | ignored request hcreation hdead hdraw =>
      cases request with
      | draw call => exact absurd rfl (hdraw call)
      | _ => exact (List.append_nil _).symm

end GpuDevice

/-! ### The device agrees with its past -/

namespace GpuRun

open GpuEvent

/-- The device is as its past says, and what was drawn are calls that do not wait any more, each
once. -/
structure Agrees (run : GpuRun) : Prop where
  alive : ∀ ρ, run.device.alive ρ = standing run.past ρ
  bound : ∀ drawState mesh, run.device.held (.drawState drawState) = some (.drawState mesh) →
    meshOf run.past drawState = some mesh
  pending : run.device.pending.calls = waiting run.past
  small : ∀ call ∈ waiting run.past, call.vertices < Bounded.Width.bits32.count
  drawn : ∃ done, submitted run.past = done ++ waiting run.past ∧
    ((drawnBy run.notes).map PassDraw.call).Sublist done

theorem agrees_start (limits : GpuLimits) : (start limits).Agrees where
  alive ρ := by cases ρ <;> rfl
  bound _ _ h := by cases h
  pending := rfl
  small _ h := by cases h
  drawn := ⟨[], rfl, List.Sublist.refl []⟩

variable {run : GpuRun}

/-- What the device makes of a call that waits is what the past tells. -/
theorem Agrees.passDraw_eq (h : run.Agrees) {call : DrawCall}
    (hsmall : call.vertices < Bounded.Width.bits32.count) :
    (if 0 < call.vertices then run.device.passDraw call else none) = drawable run.past call := by
  have hdrawState : standing run.past (.drawState call.drawState) =
      (run.device.drawStates.get? call.drawState).isSome := (h.alive (.drawState _)).symm
  rw [GpuDevice.passDraw, Nat.mod_eq_of_lt hsmall]
  cases hheld : run.device.drawStates.get? call.drawState with
  | none => simp [drawable, hdrawState, hheld]
  | some mesh =>
      have hmesh : meshOf run.past call.drawState = some mesh :=
        h.bound _ _ (by rw [GpuDevice.held, hheld]; rfl)
      have hstanding : standing run.past (.mesh mesh) = run.device.meshes.contains mesh :=
        (h.alive (.mesh mesh)).symm
      have htexture : standing run.past (.texture call.texture) =
          run.device.textures.contains call.texture := (h.alive (.texture _)).symm
      simp only [drawable, hmesh, Option.bind_some, hdrawState, hheld, hstanding, htexture,
        Option.isSome_some, Bool.and_eq_true]
      grind

/-- What is encoded are the draws that the past tells of. -/
theorem Agrees.visible_eq (h : run.Agrees) :
    run.device.pending.visible.filterMap run.device.passDraw =
      (waiting run.past).filterMap (drawable run.past) := by
  rw [DrawQueue.visible, h.pending, List.filterMap_filter]
  refine List.filterMap_congr fun call hcall => ?_
  rw [← h.passDraw_eq (h.small call hcall)]
  simp only [decide_eq_true_eq]

/-- Each call becomes one draw at most, and it is the draw of that call. -/
theorem sublist_drawable (past : List GpuEvent) (calls : List DrawCall) :
    ((calls.filterMap (drawable past)).map PassDraw.call).Sublist calls := by
  have hcall {call : DrawCall} {draw : PassDraw} (h : drawable past call = some draw) :
      draw.call = call := by
    obtain ⟨mesh, -, hdraw⟩ := Option.bind_eq_some_iff.1 h
    split at hdraw
    · cases hdraw
      rfl
    · cases hdraw
  induction calls with
  | nil => exact List.Sublist.refl []
  | cons call calls ih =>
      rw [List.filterMap_cons]
      cases h : drawable past call with
      | none => exact ih.cons call
      | some draw =>
          rw [List.map_cons, hcall h]
          exact ih.cons_cons call

/-! ### One step and a run -/

theorem agrees_request (h : run.Agrees) {request : DeviceRequest}
    (hsmall : ∀ call ∈ request.draws, call.vertices < Bounded.Width.bits32.count) :
    (run.step (.request request)).Agrees := by
  have hdoes := run.device.does_run request
  constructor
  · intro ρ
    change (request.run.run run.device).state.alive ρ = _
    rw [hdoes.alive_eq, h.alive]
    rfl
  · intro drawState mesh hheld
    rcases hdoes.bound hheld with hbinds | ⟨hbinds, hbefore⟩
    · simp only [step, meshOf, hbinds, Option.some_or]
    · simp only [step, meshOf, hbinds, Option.none_or]
      exact h.bound _ _ hbefore
  · change (request.run.run run.device).state.pending.calls = _
    rw [hdoes.pending_eq, h.pending]
    rfl
  · intro call hcall
    rcases List.mem_append.1 hcall with hbefore | hnew
    · exact h.small call hbefore
    · exact hsmall call hnew
  · obtain ⟨done, hsubmitted, hdrawn⟩ := h.drawn
    refine ⟨done, ?_, ?_⟩
    · simp only [step, submitted, waiting, hsubmitted, List.append_assoc]
    · change ((drawnBy (run.notes ++ _)).map PassDraw.call).Sublist done
      rw [drawnBy_append, GpuDevice.drawnBy_run, List.append_nil]
      exact hdrawn

/-- A step that empties the queue, having drawn what can be drawn of the calls that waited. -/
theorem Agrees.emptied (h : run.Agrees) {event : GpuEvent} {notes : List Note}
    (halive : ∀ ρ, standing (event :: run.past) ρ = standing run.past ρ)
    (hmesh : ∀ drawState, meshOf (event :: run.past) drawState = meshOf run.past drawState)
    (hwaiting : waiting (event :: run.past) = [])
    (hsubmitted : submitted (event :: run.past) = submitted run.past)
    (hdrawn : ((drawnBy notes).map PassDraw.call).Sublist (waiting run.past)) :
    Agrees ⟨{ run.device with pending := .empty }, event :: run.past, run.notes ++ notes⟩ where
  alive ρ := by
    rw [halive, ← h.alive]
    cases ρ <;> rfl
  bound drawState mesh hheld := (hmesh drawState).trans (h.bound drawState mesh hheld)
  pending := hwaiting.symm
  small call hcall := by
    rw [hwaiting] at hcall
    cases hcall
  drawn := by
    obtain ⟨done, hdone, hbefore⟩ := h.drawn
    refine ⟨done ++ waiting run.past, ?_, ?_⟩
    · rw [hsubmitted, hwaiting, hdone, List.append_nil]
    · rw [drawnBy_append, List.map_append]
      exact hbefore.append hdrawn

theorem agrees_step (h : run.Agrees) {step : GpuStep}
    (hsmall : ∀ call, step = .request (.draw call) → call.vertices < Bounded.Width.bits32.count) :
    (run.step step).Agrees := by
  cases step with
  | request request =>
      refine agrees_request h fun call hcall => hsmall call ?_
      cases request with
      | draw other => rw [List.mem_singleton.1 hcall]
      | _ => cases hcall
  | drop =>
      obtain ⟨notes, hrun, heffects⟩ := run.device.run_discardPending
      simp only [GpuRun.step, hrun]
      refine h.emptied (fun _ => rfl) (fun _ => rfl) rfl rfl ?_
      rw [← drawnBy_effects, heffects]
      exact List.nil_sublist _
  | encode clear viewport =>
      obtain ⟨notes, hrun, heffects⟩ := run.device.run_encode clear viewport
      simp only [GpuRun.step, hrun]
      refine h.emptied (fun _ => rfl) (fun _ => rfl) rfl rfl ?_
      rw [← drawnBy_effects, heffects, drawnBy_passCommands, h.visible_eq]
      exact sublist_drawable _ _

theorem agrees_after (h : run.Agrees) {steps : List GpuStep} (hsmall : ∀ call,
    .request (.draw call) ∈ steps → call.vertices < Bounded.Width.bits32.count) :
    (run.after steps).Agrees := by
  induction steps generalizing run with
  | nil => exact h
  | cons step steps ih =>
      refine ih (agrees_step h fun call hstep => hsmall call ?_) fun call hcall =>
        hsmall call (List.mem_cons_of_mem step hcall)
      exact hstep ▸ List.mem_cons_self

/-- After any steps, of which the draws have fewer vertices than can be counted, a pass that is
encoded consists of just those draws that the past tells of: the draws asked for since draws were
last dropped or encoded, in that order, that have vertices and of which the draw state, its mesh and
the texture are standing at the time. Neither an encoding nor a dropping leaves a draw waiting, and
over the whole run no draw that was asked for is drawn twice. -/
theorem encode_waiting (limits : GpuLimits) (steps : List GpuStep) (hsmall : ∀ call,
    .request (.draw call) ∈ steps → call.vertices < Bounded.Width.bits32.count) :
    let run := (start limits).after steps
    (∀ clear viewport, ∃ notes,
      (GpuDevice.encode clear viewport).run run.device =
          ⟨.ok (), { run.device with pending := .empty }, notes⟩ ∧
        effects notes = GpuDevice.passCommands clear viewport
          ((waiting run.past).filterMap (drawable run.past))) ∧
      (∃ notes, GpuDevice.discardPending.run run.device =
          ⟨.ok (), { run.device with pending := .empty }, notes⟩ ∧ effects notes = []) ∧
      ((drawnBy run.notes).map PassDraw.call).Sublist (submitted run.past) := by
  intro run
  have hagrees : run.Agrees := agrees_after (agrees_start limits) hsmall
  refine ⟨fun clear viewport => ?_, run.device.run_discardPending, ?_⟩
  · rw [← hagrees.visible_eq]
    exact run.device.run_encode clear viewport
  · obtain ⟨done, hsubmitted, hdrawn⟩ := hagrees.drawn
    rw [hsubmitted]
    exact hdrawn.trans (List.sublist_append_left done _)

/-- A run in which a texture and, after an encoding, the mesh of a draw state are destroyed while
draws with them wait. -/
def rebuilt : List GpuStep :=
  [.request (.createMesh ⟨12, 16⟩), .request .createProgram,
    .request (.createDrawState ⟨1⟩ ⟨2⟩), .request (.createTexture ⟨1, 1, #[0, 0, 0, 255]⟩),
    .request (.createTexture ⟨1, 1, #[255, 255, 255, 255]⟩),
    .request (.draw ⟨⟨3⟩, ⟨4⟩, 6⟩), .request (.draw ⟨⟨3⟩, ⟨5⟩, 3⟩),
    .request (.destroy (.texture ⟨5⟩)), .request (.draw ⟨⟨3⟩, ⟨4⟩, 0⟩),
    .encode .black ⟨0, 0, 8, 8⟩,
    .request (.draw ⟨⟨3⟩, ⟨4⟩, 12⟩), .request (.destroy (.mesh ⟨1⟩)),
    .request (.createMesh ⟨9, 16⟩), .request (.createDrawState ⟨6⟩ ⟨2⟩),
    .request (.draw ⟨⟨7⟩, ⟨5⟩, 3⟩), .request (.draw ⟨⟨7⟩, ⟨4⟩, 9⟩)]

theorem encode_waiting_rebuilt :
    (∀ call, .request (.draw call) ∈ rebuilt → call.vertices < Bounded.Width.bits32.count) ∧
      (∀ clear viewport, ∃ notes,
        (GpuDevice.encode clear viewport).run ((start .standard).after rebuilt).device =
            ⟨.ok (), { ((start .standard).after rebuilt).device with pending := .empty }, notes⟩ ∧
          effects notes = GpuDevice.passCommands clear viewport [⟨⟨7⟩, ⟨4⟩, ⟨6⟩, 9⟩]) ∧
      drawnBy ((start .standard).after rebuilt).notes = [⟨⟨3⟩, ⟨4⟩, ⟨1⟩, 6⟩] := by
  have hsmall : ∀ call, .request (.draw call) ∈ rebuilt →
      call.vertices < Bounded.Width.bits32.count := by
    intro call hcall
    simp only [rebuilt, List.mem_cons, GpuStep.request.injEq, DeviceRequest.draw.injEq,
      reduceCtorEq, List.not_mem_nil, false_or, or_false] at hcall
    rcases hcall with rfl | rfl | rfl | rfl | rfl | rfl <;> decide
  have hpass : (waiting ((start .standard).after rebuilt).past).filterMap
      (drawable ((start .standard).after rebuilt).past) = [⟨⟨7⟩, ⟨4⟩, ⟨6⟩, 9⟩] := by rfl
  have hencode := (encode_waiting .standard rebuilt hsmall).1
  rw [hpass] at hencode
  exact ⟨hsmall, hencode, rfl⟩

end GpuRun

end Mosaic
