import Mosaic.Proofs.Device.Steps
import Mosaic.Proofs.Device.Supply
import Mosaic.Proofs.Gpu.Held
import Mosaic.Proofs.Gpu.Twin

/-!
# Two devices in step

Where each request to one device matches that to another, so do their answers to any requests, one
after the other (`Device.calls_eq_of_matches`). A queueing device and a recorder therefore answer
all requests within the limits of the graphics processor alike, number their resources alike and
have the same alive.
-/

namespace Mosaic

namespace Device

variable {δ ε : Type} [Device δ] [Device ε]

/-- Requests that match one by one match as a whole. -/
theorem calls_eq_of_matches {R : δ → ε → Prop} {requests : List DeviceRequest}
    (h : ∀ request ∈ requests, Action.Matches R (request.run (δ := δ)) (request.run (δ := ε)))
    {device : δ} {other : ε} (hR : R device other) :
    calls device requests = calls other requests ∧
      R (after device requests) (after other requests) := by
  induction requests generalizing device other with
  | nil => exact ⟨rfl, hR⟩
  | cons request rest ih =>
      obtain ⟨hresult, hstate⟩ := h request List.mem_cons_self device other hR
      obtain ⟨hcalls, hafter⟩ := ih (fun q hq => h q (List.mem_cons_of_mem request hq)) hstate
      rw [calls, calls, hresult, hcalls]
      exact ⟨rfl, hafter⟩

end Device

/-! ### What changes nothing -/

namespace Recorder

variable {r : Recorder} {limits : GpuLimits}

theorem Creates.ne_refused {α : Type} {kind : ResourceKind} {id : Nat → α} {k : Kept}
    {outcome : Outcome Recorder (Except DeviceError α)} (h : Creates r kind id k outcome)
    (hfailing : r.failing = none) (e : DeviceError) : outcome.result ≠ .ok (.error e) := by
  cases h with
  | refused e r' h =>
      rw [hfailing] at h
      cases h
  | exhausted | made => nofun

theorem eq_refused_of_map {α : Type} {answer : α → Option Resource}
    {result : Except Fault (Except DeviceError α)} {e : DeviceError}
    (h : Except.map answer <$> result = .ok (.error e)) : result = .ok (.error e) := by
  cases result with
  | error fault => cases h
  | ok result =>
      cases result with
      | ok a => cases h
      | error e' =>
          cases h
          rfl

theorem done_ne_refused (result : Except Fault Unit) (e : DeviceError) :
    (fun _ => (.ok none : Except DeviceError (Option Resource))) <$> result ≠ .ok (.error e) := by
  cases result <;> nofun

/-- On a recorder that is not made to fail, the one request within limits that may be refused is for
a draw state, and then nothing changes. -/
theorem state_of_refused {request : DeviceRequest} (hwithin : request.Within limits)
    (hfailing : r.failing = none) {e : DeviceError}
    (h : (request.run.run r).result = .ok (.error e)) :
    (∃ mesh program, request = .createDrawState mesh program) ∧
      (request.run.run r).state = r := by
  cases request with
  | createMesh layout =>
      obtain ⟨size, hsize, -⟩ := hwithin
      rw [DeviceRequest.run, Action.run_map] at h
      exact absurd (eq_refused_of_map h) ((creates_mesh hsize r).ne_refused hfailing e)
  | createProgram =>
      rw [DeviceRequest.run, Action.run_map] at h
      exact absurd (eq_refused_of_map h) ((creates_program r).ne_refused hfailing e)
  | createTexture image =>
      rw [DeviceRequest.run, Action.run_map] at h
      exact absurd (eq_refused_of_map h) ((creates_texture image r).ne_refused hfailing e)
  | createDrawState mesh program =>
      refine ⟨⟨mesh, program, rfl⟩, ?_⟩
      rw [DeviceRequest.run, Action.run_map] at h ⊢
      change ((createDrawState mesh program).run r).state = r
      cases hmesh : r.meshes.contains mesh with
      | false => rw [run_createDrawState_of_no_mesh hmesh]
      | true =>
      cases hprogram : r.programs.contains program with
      | false => rw [run_createDrawState_of_no_program hmesh hprogram]
      | true =>
          exact absurd (eq_refused_of_map h)
            ((creates_drawState hmesh hprogram).ne_refused hfailing e)
  | destroy | upload | draw =>
      rw [DeviceRequest.run, Action.run_map] at h
      exact absurd h (done_ne_refused _ e)

/-- A resource that was alive when it was destroyed is not alive again, whatever is asked for. -/
theorem dead_of_destroyed (hr : r.Reached) {ρ : Resource} (halive : r.alive ρ)
    (requests : List DeviceRequest) :
    (Device.after r (.destroy ρ :: requests)).alive ρ = false := by
  rw [← after_map_request]
  exact (hr.gone halive (requests.map .request)).2

theorem state_destroy_of_dead {ρ : Resource} (h : r.alive ρ = false) :
    ((DeviceRequest.destroy ρ).run.run r).state = r := by
  rw [DeviceRequest.run, Action.run_map]
  change ((destroy ρ).run r).state = r
  rw [destroy, Action.run_get_bind, h]
  rfl

end Recorder

namespace GpuDevice

variable {device device' : GpuDevice}

theorem Does.state_of_refused {call : DeviceCall} (h : Does device call device') {e : DeviceError}
    (hcall : call.answer = .ok (.error e)) : device' = device := by
  cases h with
  | refused => rfl
  | made | stopped | destroyed | queued | ignored => cases hcall

theorem state_destroy_of_dead {ρ : Resource} (h : device.alive ρ = false) :
    ((DeviceRequest.destroy ρ).run.run device).state = device := by
  rw [DeviceRequest.run, Action.run_map]
  change ((destroy ρ).run device).state = device
  rw [destroy, Action.run_get_bind, h]
  rfl

variable {limits : GpuLimits}

/-- Requests within the limits come to the same on twins, and to twins. -/
theorem Twin.after {r : Recorder} (h : Twin limits device r) {requests : List DeviceRequest}
    (hwithin : ∀ request ∈ requests, request.Within limits) :
    Device.calls device requests = Device.calls r requests ∧
      Twin limits (Device.after device requests) (Device.after r requests) :=
  Device.calls_eq_of_matches (fun request hrequest => matches_run (hwithin request hrequest)) h

/-- Ask a queueing device and a recorder, of which neither was asked anything yet, any requests for
nothing larger than the graphics processor allows. All answers are the same, errors included, and
the same resources are alive. No request stops while fewer resources were asked for, and not
refused, than can be counted. The numbers of the resources grow from each to the next, and one that
was alive when it was destroyed is never alive again. A request that is refused is for a draw state;
it leaves both devices as they are, and so does the destruction of what is not alive. -/
theorem devices_in_step (limits : GpuLimits) (requests : List DeviceRequest)
    (hwithin : ∀ request ∈ requests, request.Within limits) :
    let calls := Device.calls Recorder.fresh requests
    let device := Device.after { GpuDevice.fresh with limits } requests
    let r := Device.after Recorder.fresh requests
    (Device.calls { GpuDevice.fresh with limits } requests = calls ∧
        ∀ ρ, device.alive ρ = r.alive ρ) ∧
      (calls.countP DeviceCall.spends < Bounded.Width.bits32.count →
        ∀ call ∈ calls, ∃ answer, call.answer = .ok answer) ∧
      ((madeBy calls).map Resource.number).Pairwise (· < ·) ∧
      (∀ ρ, r.alive ρ → ∀ later : List DeviceRequest, (∀ request ∈ later, request.Within limits) →
        (Device.after device (.destroy ρ :: later)).alive ρ = false ∧
          (Device.after r (.destroy ρ :: later)).alive ρ = false) ∧
      (∀ request : DeviceRequest, request.Within limits → ∀ e,
        (request.run.run r).result = .ok (.error e) →
          (∃ mesh program, request = .createDrawState mesh program) ∧
            (request.run.run device).state = device ∧ (request.run.run r).state = r) ∧
      ∀ ρ, r.alive ρ = false →
        ((DeviceRequest.destroy ρ).run.run device).state = device ∧
          ((DeviceRequest.destroy ρ).run.run r).state = r := by
  intro calls device r
  have hserves := Device.serves_calls Recorder.fresh requests
  have hreached : r.Reached := Recorder.Reached.fresh.serves hserves
  obtain ⟨hcalls, htwin⟩ := (twin_fresh limits).after hwithin
  refine ⟨⟨hcalls, htwin.alive⟩, ?_, hserves.pairwise_number, ?_, ?_, ?_⟩
  · intro hcount call hcall
    cases hanswer : call.answer with
    | ok answer => exact ⟨answer, rfl⟩
    | error fault =>
        obtain ⟨-, hnumber | ⟨layout, hlayout, hsize⟩⟩ := hserves.stop hcall hanswer
        · rw [Recorder.fresh, Nat.zero_add] at hnumber
          exact absurd hcount (Nat.not_lt.2 hnumber)
        · have hfits := hwithin _ (Device.request_of_mem_calls hcall)
          rw [hlayout] at hfits
          obtain ⟨size, hok, -⟩ := hfits
          rw [hsize] at hok
          cases hok
  · intro ρ halive later hlater
    have hdead := Recorder.dead_of_destroyed hreached halive later
    have hrest : ∀ request ∈ (.destroy ρ :: later : List DeviceRequest), request.Within limits :=
      List.forall_mem_cons.2 ⟨trivial, hlater⟩
    exact ⟨((htwin.after hrest).2.alive ρ).trans hdead, hdead⟩
  · intro request hrequest e he
    obtain ⟨hdrawState, hstate⟩ := Recorder.state_of_refused hrequest htwin.failing he
    have hresult := (matches_run hrequest device r htwin).1.trans he
    exact ⟨hdrawState, (device.does_run request).state_of_refused hresult, hstate⟩
  · intro ρ hdead
    exact ⟨state_destroy_of_dead ((htwin.alive ρ).trans hdead),
      Recorder.state_destroy_of_dead hdead⟩

/-- Requests among which a mesh is destroyed before a draw state is asked for with it, and a texture
is destroyed before it is made. -/
def misplaced : List DeviceRequest :=
  [.createMesh ⟨6, 16⟩, .createProgram, .destroy (.texture ⟨5⟩), .destroy (.mesh ⟨1⟩),
    .createDrawState ⟨1⟩ ⟨2⟩, .createMesh ⟨9, 16⟩, .createDrawState ⟨3⟩ ⟨2⟩,
    .createTexture ⟨1, 1, #[0, 0, 0, 255]⟩]

theorem devices_in_step_misplaced :
    let device := Device.after GpuDevice.fresh misplaced
    (∀ request ∈ misplaced, request.Within .standard) ∧
      Device.calls GpuDevice.fresh misplaced = Device.calls Recorder.fresh misplaced ∧
      (Device.calls Recorder.fresh misplaced)[4]? =
        some (.refusing (.createDrawState ⟨1⟩ ⟨2⟩) (.unknownHandle "mesh" 1)) ∧
      madeBy (Device.calls Recorder.fresh misplaced) =
        [.mesh ⟨1⟩, .program ⟨2⟩, .mesh ⟨3⟩, .drawState ⟨4⟩, .texture ⟨5⟩] ∧
      (∀ call ∈ Device.calls Recorder.fresh misplaced, ∃ answer, call.answer = .ok answer) ∧
      (Device.after device [.destroy (.mesh ⟨3⟩), .createMesh ⟨6, 16⟩]).alive (.mesh ⟨3⟩) = false ∧
      ((DeviceRequest.createDrawState ⟨1⟩ ⟨2⟩).run.run device).state = device := by
  intro device
  have hmesh : (DeviceRequest.createMesh ⟨6, 16⟩).Within .standard := ⟨96, rfl, by decide⟩
  have hmesh' : (DeviceRequest.createMesh ⟨9, 16⟩).Within .standard := ⟨144, rfl, by decide⟩
  have hwithin : ∀ request ∈ misplaced, request.Within .standard := by
    simp only [misplaced, List.forall_mem_cons]
    exact ⟨hmesh, trivial, trivial, trivial, trivial, hmesh', trivial, ⟨by decide, by decide⟩,
      nofun⟩
  obtain ⟨⟨hcalls, -⟩, hanswers, -, hdead, hrefused, -⟩ :=
    devices_in_step .standard misplaced hwithin
  exact ⟨hwithin, hcalls, rfl, rfl, hanswers (by decide +kernel),
    (hdead (.mesh ⟨3⟩) (by decide +kernel) [.createMesh ⟨6, 16⟩]
      (List.forall_mem_singleton.2 hmesh)).1,
    (hrefused (.createDrawState ⟨1⟩ ⟨2⟩) trivial _ rfl).2.1⟩

end GpuDevice

end Mosaic
