import Mosaic.Proofs.Stage.Holdings
import Mosaic.Proofs.Stage.Invariant

/-!
# Setting up is all or nothing

When a canvas cannot be set up, it stays as it is, and so does all that its device keeps: either
nothing is asked of the device, or the creations before the one that is refused are undone, the
latest first. When it is set up, the four creations are all that is asked, and the canvas is empty.
-/

namespace Mosaic

namespace Config

theorem cause_of_checkField {field : String} {value least greatest : Int} {e : SetupError}
    (h : checkField field value least greatest = .error e) : e.cause = none := by
  unfold checkField at h
  split at h
  · cases h
    rfl
  · cases h

/-- No device is behind it when a configuration is refused. -/
theorem cause_of_validate {c : Config} {e : SetupError} (h : c.validate = .error e) :
    e.cause = none := by
  have hstep {first : Except SetupError Unit} {next : Unit → Except SetupError Unit}
      (hbind : (first >>= next) = .error e) : first = .error e ∨ next () = .error e := by
    cases first with
    | error e' => exact .inl hbind
    | ok u => exact .inr hbind
  obtain h | h := hstep h
  · exact cause_of_checkField h
  obtain h | h := hstep h
  · exact cause_of_checkField h
  obtain h | h := hstep h
  · exact cause_of_checkField h
  obtain h | h := hstep h
  · exact cause_of_checkField h
  · exact cause_of_checkField h

end Config

namespace Stage

section Calls

variable {δ : Type} [Device δ] {stage : Stage δ} {c : Config}

theorem serves_setup (stage : Stage δ) (c : Config) :
    Device.Serves stage.device (stage.calls (.command (.setup c)))
      ((setup c).run stage).state.device := by
  have h := serves_calls (.command (.setup c)) stage
  rw [Operation.run, Command.run, Action.run_map] at h
  exact h

/-- The creations before one that is refused are undone. -/
def RolledBack (image : Image) (e : DeviceError) (calls : List DeviceCall) : Prop :=
  ∃ (set : ResourceSet) (k : Nat) (request : DeviceRequest),
    (set.requests meshLayout image)[k]? = some request ∧
      calls = set.abandoned meshLayout image k request e

/-- When setting up answers an error, either nothing was asked or all was undone. -/
theorem setup_of_error {e : SetupError}
    (h : ((setup c).run stage).result = .ok (.error e)) :
    ((setup c).run stage).state.canvas = stage.canvas ∧
      ((e.cause = none ∧ stage.calls (.command (.setup c)) = []) ∨
        ∃ d, e = .device d ∧
          RolledBack stage.canvas.sheet.image d (stage.calls (.command (.setup c)))) := by
  have hsets := setsUp stage c
  generalize stage.calls (.command (.setup c)) = calls at hsets ⊢
  generalize ((setup c).run stage).state.canvas = canvas at hsets ⊢
  rw [h] at hsets
  cases hsets with
  | active a hactive => exact ⟨rfl, .inl ⟨rfl, rfl⟩⟩
  | invalid e hactive hc => exact ⟨rfl, .inl ⟨Config.cause_of_validate hc, rfl⟩⟩
  | refused d calls hactive hc hcalls =>
      refine ⟨rfl, .inr ⟨d, rfl, ?_⟩⟩
      obtain _ | ⟨set, k, request, _, hrequest⟩ := hcalls
      exact ⟨set, k, request, hrequest, rfl⟩

/-- When a creation is refused, so is setting up, unless the device stops meanwhile. -/
theorem setup_of_refusal {call : DeviceCall} {d : DeviceError}
    (hcall : call ∈ stage.calls (.command (.setup c))) (hrefused : call.answer = .ok (.error d))
    (hstops : ∀ other ∈ stage.calls (.command (.setup c)), ∀ fault, other.answer ≠ .error fault) :
    ((setup c).run stage).result = .ok (.error (.device d)) := by
  have hsets := setsUp stage c
  generalize stage.calls (.command (.setup c)) = calls at hsets hcall hstops
  generalize ((setup c).run stage).state.canvas = canvas at hsets
  generalize ((setup c).run stage).result = result at hsets ⊢
  have hmade : ∀ {set : ResourceSet} {image : Image},
      call ∉ set.creations meshLayout image := by
    intro set image hcreation
    obtain ⟨ρ, hanswer⟩ := set.answer_of_mem_creations hcreation
    rw [hanswer] at hrefused
    cases hrefused
  cases hsets with
  | active | invalid => cases hcall
  | made set calls hactive hc hcalls =>
      cases hcalls
      exact absurd hcall hmade
  | refused e calls hactive hc hcalls =>
      obtain _ | ⟨set, k, request, _, hrequest⟩ := hcalls
      rw [ResourceSet.abandoned, List.mem_append, List.mem_cons] at hcall
      obtain hcall | rfl | hcall := hcall
      · exact absurd (List.mem_of_mem_take hcall) hmade
      · cases hrefused
        rfl
      · obtain ⟨ρ, -, rfl⟩ := ResourceSet.mem_destructions.1 hcall
        cases hrefused
  | stopped fault calls hactive hc hcalls =>
      cases hcalls with
      | stopped set k request _ hrequest =>
          exact absurd rfl (hstops _ (List.mem_append_right _ (List.mem_singleton_self _)) fault)
      | stuck _ ρ _ hstuck => exact absurd rfl (hstops _ hstuck fault)

/-- When setting up succeeds, four creations are all that was asked, and the canvas is empty. -/
theorem setup_of_ok (h : ((setup c).run stage).result = .ok (.ok ())) :
    ∃ set : ResourceSet,
      stage.calls (.command (.setup c)) = set.creations meshLayout stage.canvas.sheet.image ∧
        ((setup c).run stage).state.canvas = opened c set stage.canvas := by
  have hsets := setsUp stage c
  generalize stage.calls (.command (.setup c)) = calls at hsets ⊢
  generalize ((setup c).run stage).state.canvas = canvas at hsets ⊢
  rw [h] at hsets
  obtain _ | _ | ⟨set, calls, hactive, hc, hcalls⟩ := hsets
  cases hcalls
  exact ⟨set, rfl, rfl⟩

/-- A canvas that was just set up shows nothing. -/
theorem shows_nothing_opened (set : ResourceSet) (canvas : Canvas) :
    (∀ x y, 0 ≤ x → x < c.columns → 0 ≤ y → y < c.rows →
        (opened c set canvas).tile x y = .ok none) ∧
      ∀ slot, slot < c.slots → (opened c set canvas).sprite slot = .ok none := by
  have hactive : (opened c set canvas).active = some ⟨c, set⟩ := rfl
  constructor
  · intro x y hx hx' hy hy'
    rw [Canvas.tile_of_mem hactive hx hx' hy hy']
    exact congrArg _ (Canvas.stored_emptied canvas _)
  · intro slot hslot
    rw [Canvas.sprite_of_lt hactive hslot]
    exact congrArg _ (Canvas.slotted_emptied canvas _)

end Calls

/-! ### On a recorder -/

section Recorder

variable {stage : Stage Recorder} {c : Config}

theorem not_draw_of_isCreation {request : DeviceRequest} (h : request.isCreation)
    (d : DrawCall) : request ≠ .draw d := by
  rintro rfl
  cases h

/-- When setting up answers an error, a recorder keeps what it kept and records no draw. -/
theorem recorder_setup_of_error (hstage : stage.device.Reached) {e : SetupError}
    (h : ((setup c).run stage).result = .ok (.error e)) :
    (∀ ρ, ((setup c).run stage).state.device.kept ρ = stage.device.kept ρ) ∧
      ((setup c).run stage).state.device.draws = stage.device.draws := by
  have hserves := serves_setup stage c
  obtain ⟨-, ⟨-, hcalls⟩ | ⟨d, rfl, set, k, request, hrequest, hcalls⟩⟩ := setup_of_error h
  · rw [hcalls] at hserves
    rw [show ((setup c).run stage).state.device = stage.device from hserves]
    exact ⟨fun ρ => rfl, rfl⟩
  · rw [hcalls] at hserves
    refine ⟨ResourceSet.kept_of_abandoned hstage.numbered hrequest hserves,
      hserves.draws_eq fun call hcall => ?_⟩
    obtain hcreation | ⟨ρ, -, rfl⟩ := set.of_mem_abandoned hrequest hcall
    · exact not_draw_of_isCreation hcreation
    · exact nofun

theorem live_setup_of_error (hstage : stage.device.Reached) {e : SetupError}
    (h : ((setup c).run stage).result = .ok (.error e)) :
    ((setup c).run stage).state.device.live = stage.device.live := by
  have htidy := (hstage.serves (serves_setup stage c)).tidy
  have hkept := (recorder_setup_of_error hstage h).1
  refine Recorder.live_add hstage.tidy htidy .nil (fun _ hρ => absurd hρ List.not_mem_nil) ?_
  intro ρ
  rw [← Recorder.isSome_kept, hkept, Recorder.isSome_kept]
  simp

/-- When setting up succeeds, a recorder keeps four resources more and records no draw. -/
theorem recorder_setup_of_ok (hstage : stage.device.Reached)
    (h : ((setup c).run stage).result = .ok (.ok ())) :
    ∃ set, ((setup c).run stage).state.canvas.resources = some set ∧
      (∀ ρ ∈ set.toList, stage.device.alive ρ = false ∧
        ((setup c).run stage).state.device.alive ρ = true) ∧
      (∀ ρ, ρ ∉ set.toList → ((setup c).run stage).state.device.kept ρ = stage.device.kept ρ) ∧
      ((setup c).run stage).state.device.live = stage.device.live + 4 ∧
      ((setup c).run stage).state.device.draws = stage.device.draws := by
  obtain ⟨set, hcalls, hcanvas⟩ := setup_of_ok h
  have hserves := serves_setup stage c
  have htidy := (hstage.serves hserves).tidy
  rw [hcalls] at hserves
  have hmadeBy : madeBy (set.creations meshLayout stage.canvas.sheet.image) = set.toList :=
    set.madeBy_creations
  have hbefore : ∀ ρ ∈ set.toList, stage.device.alive ρ = false := fun ρ hρ => by
    refine Bool.eq_false_iff.2 fun halive => ?_
    exact absurd (hserves.number_made (hmadeBy.symm ▸ hρ)).1
      (Nat.not_lt.2 (hstage.numbered ρ halive))
  have hafter : ∀ ρ ∈ set.toList, ((setup c).run stage).state.device.alive ρ = true :=
    fun ρ hρ => ResourceSet.alive_creations byteSize_meshLayout hserves hρ
  have hkept : ∀ ρ, ρ ∉ set.toList →
      ((setup c).run stage).state.device.kept ρ = stage.device.kept ρ := fun ρ hρ =>
    hserves.kept_eq (hmadeBy.symm ▸ hρ) fun call hcall =>
      DeviceRequest.not_touches_of_isCreation (set.isCreation_of_mem_creations hcall) ρ
  refine ⟨set, by rw [hcanvas]; rfl, fun ρ hρ => ⟨hbefore ρ hρ, hafter ρ hρ⟩, hkept, ?_, ?_⟩
  · refine Recorder.live_add hstage.tidy htidy set.nodup_toList hbefore fun ρ => ?_
    by_cases hρ : ρ ∈ set.toList
    · simp [hafter ρ hρ, hρ]
    · rw [← Recorder.isSome_kept, hkept ρ hρ, Recorder.isSome_kept]
      simp [hρ]
  · exact hserves.draws_eq fun call hcall =>
      not_draw_of_isCreation (set.isCreation_of_mem_creations hcall)

end Recorder

/-- Setting up is all or nothing. On any device, when it answers an error the canvas stays as it
was; without an error of the device nothing is asked of it, and otherwise creation number `k` was
refused and the `k` resources made before are destroyed, each once and the latest first, and no
others. Only a refusal, or a device that stops, keeps four creations from being all that is asked,
after which the canvas is empty. A recorder keeps after an error what it kept before, and after a
success four resources more. -/
theorem setup_allOrNothing :
    (∀ {δ : Type} [Device δ] (stage : Stage δ) (c : Config),
      let outcome := (setup c).run stage
      let calls := stage.calls (.command (.setup c))
      Device.Serves stage.device calls outcome.state.device ∧
        (∀ e, outcome.result = .ok (.error e) → outcome.state.canvas = stage.canvas ∧
          ((e.cause = none ∧ calls = [] ∧ outcome.state.device = stage.device) ∨
            ∃ d, e = .device d ∧ RolledBack stage.canvas.sheet.image d calls)) ∧
        (stage.canvas.isValid → outcome.result = .ok (.error .alreadyValid)) ∧
        (∀ e, ¬ stage.canvas.isValid → c.validate = .error e → outcome.result = .ok (.error e)) ∧
        (∀ call ∈ calls, ∀ d, call.answer = .ok (.error d) →
          (∀ other ∈ calls, ∀ fault, other.answer ≠ .error fault) →
            outcome.result = .ok (.error (.device d))) ∧
        (outcome.result = .ok (.ok ()) → ∃ set : ResourceSet,
          calls = set.creations meshLayout stage.canvas.sheet.image ∧
            outcome.state.canvas.active = some ⟨c, set⟩ ∧
            (∀ x y, 0 ≤ x → x < c.columns → 0 ≤ y → y < c.rows →
              outcome.state.canvas.tile x y = .ok none) ∧
            ∀ slot, slot < c.slots → outcome.state.canvas.sprite slot = .ok none)) ∧
      ∀ (stage : Stage Recorder) (c : Config), stage.device.Reached →
        let outcome := (setup c).run stage
        (∀ e, outcome.result = .ok (.error e) →
          (∀ ρ, outcome.state.device.kept ρ = stage.device.kept ρ) ∧
            outcome.state.device.live = stage.device.live ∧
            outcome.state.device.draws = stage.device.draws) ∧
          (outcome.result = .ok (.ok ()) → ∃ set : ResourceSet,
            outcome.state.canvas.resources = some set ∧
              (∀ ρ ∈ set.toList, stage.device.alive ρ = false ∧
                outcome.state.device.alive ρ = true) ∧
              (∀ ρ, ρ ∉ set.toList → outcome.state.device.kept ρ = stage.device.kept ρ) ∧
              outcome.state.device.live = stage.device.live + 4 ∧
              outcome.state.device.draws = stage.device.draws) := by
  refine ⟨fun stage c => ⟨serves_setup stage c, fun e h => ?_, fun h => ?_, fun e h hc => ?_,
    fun call hcall d hrefused => setup_of_refusal hcall hrefused, fun h => ?_⟩,
    fun stage c hstage => ?_⟩
  · obtain ⟨hcanvas, ⟨hcause, hcalls⟩ | hrolledBack⟩ := setup_of_error h
    · refine ⟨hcanvas, .inl ⟨hcause, hcalls, ?_⟩⟩
      have hserves := serves_setup stage c
      rw [hcalls] at hserves
      exact hserves
    · exact ⟨hcanvas, .inr hrolledBack⟩
  · obtain ⟨a, ha⟩ := Option.isSome_iff_exists.1 h
    rw [run_setup_of_active ha]
  · have hactive : stage.canvas.active = none := by simpa [Canvas.isValid] using h
    rw [run_setup_of_invalid hactive hc]
  · obtain ⟨set, hcalls, hcanvas⟩ := setup_of_ok h
    obtain ⟨htiles, hslots⟩ := shows_nothing_opened (c := c) set stage.canvas
    rw [hcanvas]
    exact ⟨set, hcalls, rfl, htiles, hslots⟩
  · refine ⟨fun e h => ?_, recorder_setup_of_ok hstage⟩
    obtain ⟨hkept, hdraws⟩ := recorder_setup_of_error hstage h
    exact ⟨hkept, live_setup_of_error hstage h, hdraws⟩

/-- A fresh canvas on a recorder with a program of someone else, on which the next texture fails. -/
def crowdedStage : Stage Recorder :=
  .fresh straySheet
    ((Recorder.failOn .texture).run (DeviceRequest.createProgram.run.run .fresh).state).state

theorem reached_crowdedStage : crowdedStage.device.Reached :=
  (Recorder.Reached.fresh.request .createProgram).failOn .texture

theorem setup_allOrNothing_crowdedStage :
    let retry := ((setup .standard).run crowdedStage).state
    (((setup .standard).run crowdedStage).result =
        .ok (.error (.device (.other "injected Texture failure"))) ∧
      retry.canvas = crowdedStage.canvas ∧ retry.device.live = 1) ∧
      ((setup .standard).run retry).result = .ok (.ok ()) ∧
        ((setup .standard).run retry).state.device.live = 5 ∧
        ((setup .standard).run retry).state.canvas.tile 31 31 = .ok none := by
  have hfirst : ((setup .standard).run crowdedStage).result =
      .ok (.error (.device (.other "injected Texture failure"))) := by decide +kernel
  have hreached := reached_crowdedStage.serves (serves_setup crowdedStage .standard)
  have hcanvas := ((setup_allOrNothing.1 crowdedStage .standard).2.1 _ hfirst).1
  have hlive := ((setup_allOrNothing.2 crowdedStage .standard reached_crowdedStage).1 _ hfirst).2.1
  have hone : crowdedStage.device.live = 1 := by decide +kernel
  have hsecond : ((setup .standard).run ((setup .standard).run crowdedStage).state).result =
      .ok (.ok ()) := by decide +kernel
  generalize ((setup .standard).run crowdedStage).state = retry at *
  obtain ⟨set, -, -, -, hlive', -⟩ := (setup_allOrNothing.2 retry .standard hreached).2 hsecond
  obtain ⟨_, -, -, htiles, -⟩ := (setup_allOrNothing.1 retry .standard).2.2.2.2.2 hsecond
  refine ⟨⟨hfirst, hcanvas, hlive.trans hone⟩, hsecond, ?_, ?_⟩
  · rw [hlive', hlive, hone]
  · exact htiles 31 31 (by decide) (by decide) (by decide) (by decide)

end Stage

end Mosaic
