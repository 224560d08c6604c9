import Mathlib.Data.List.Induction
import Mosaic.Proofs.Device.Turnover

/-!
# Steps of a recorder

A recorder is taken through requests, failures to come and clearings in any order (`Recorder.Step`).
No step makes a resource with a number that was given before, so what was destroyed while it was
alive stays gone (`gone_of_destroys`). A draw state is made for a mesh that is alive, so later its
mesh is alive or was destroyed (`alive_or_destroys`).
-/

namespace Mosaic

namespace Recorder

variable {r : Recorder} {mesh : MeshId} {drawState : DrawStateId} {ρ : Resource}

/-- What can happen to a recorder. -/
inductive Step where
  | request (request : DeviceRequest)
  /-- The next creation of a kind is made to fail. -/
  | failOn (kind : ResourceKind)
  | clearDraws
  deriving DecidableEq

/-- The recorder after one more step. -/
def step (r : Recorder) : Step → Recorder
  | .request request => (request.run.run r).state
  | .failOn kind => ((failOn kind).run r).state
  | .clearDraws => (clearDraws.run r).state

/-- The recorder that steps lead to. -/
def after (r : Recorder) (steps : List Step) : Recorder := steps.foldl step r

theorem after_append (r : Recorder) (first second : List Step) :
    r.after (first ++ second) = (r.after first).after second := List.foldl_append

theorem after_map_request (r : Recorder) (requests : List DeviceRequest) :
    r.after (requests.map .request) = Device.after r requests := List.foldl_map

theorem Reached.step (h : r.Reached) (step : Step) : (r.step step).Reached := by
  cases step with
  | request request => exact h.request request
  | failOn kind => exact h.failOn kind
  | clearDraws => exact h.clearDraws

theorem Reached.after (h : r.Reached) (steps : List Step) : (r.after steps).Reached := by
  induction steps generalizing r with
  | nil => exact h
  | cons step more ih => exact ih (h.step step)

/-! ### What was destroyed -/

/-- The number of the resource was given and the resource is not alive. -/
def Gone (r : Recorder) (ρ : Resource) : Prop := ρ.number ≤ r.lastId ∧ r.alive ρ = false

/-- No number is given twice. -/
theorem Gone.step (h : r.Gone ρ) (step : Step) : (r.step step).Gone ρ := by
  cases step with
  | failOn | clearDraws => exact ⟨h.1, by cases ρ <;> exact h.2⟩
  | request request =>
      have hdoes := does_run request r
      refine ⟨Nat.le_trans h.1 hdoes.lastId_le, Bool.eq_false_iff.2 fun halive => ?_⟩
      obtain hbefore | hmade := hdoes.alive_before halive
      · rw [h.2] at hbefore
        cases hbefore
      · exact absurd h.1 (Nat.not_le.2 (hdoes.number_made hmade).1)

theorem Gone.after (h : r.Gone ρ) (steps : List Step) : (r.after steps).Gone ρ := by
  induction steps generalizing r with
  | nil => exact h
  | cons step more ih => exact ih (h.step step)

/-- What is destroyed while it is alive is gone, whatever happens later. -/
theorem Reached.gone (h : r.Reached) (halive : r.alive ρ) (later : List Step) :
    (r.after (.request (.destroy ρ) :: later)).Gone ρ := by
  have hdoes := does_run (.destroy ρ) r
  exact Gone.after ⟨Nat.le_trans (h.numbered ρ halive) hdoes.lastId_le, hdoes.dead rfl⟩ later

/-- The steps destroy the resource while it is alive. -/
def Destroys (steps : List Step) (ρ : Resource) : Prop :=
  ∃ before later, steps = before ++ .request (.destroy ρ) :: later ∧ (fresh.after before).alive ρ

theorem gone_of_destroys {steps : List Step} (h : Destroys steps ρ) :
    (fresh.after steps).Gone ρ := by
  obtain ⟨before, later, rfl, halive⟩ := h
  rw [after_append]
  exact (Reached.fresh.after before).gone halive later

theorem Destroys.append {steps : List Step} (h : Destroys steps ρ) (more : List Step) :
    Destroys (steps ++ more) ρ := by
  obtain ⟨before, later, rfl, halive⟩ := h
  exact ⟨before, later ++ more, by simp, halive⟩

/-- What is alive stays alive until it is destroyed. -/
theorem alive_step (h : r.alive ρ) {step : Step} (hstep : step ≠ .request (.destroy ρ)) :
    (r.step step).alive ρ := by
  cases step with
  | failOn | clearDraws => cases ρ <;> exact h
  | request request =>
      have hdoes := does_run request r
      by_cases hmade : (DeviceCall.mk request (request.run.run r).result).made = some ρ
      · obtain ⟨k, hkept, -⟩ := hdoes.kept_made hmade
        rw [Recorder.step, ← isSome_kept, hkept]
        rfl
      · exact (hdoes.alive_eq hmade fun e => hstep (congrArg _ e)).trans h

/-! ### The mesh of a draw state -/

/-- A draw state is made for a mesh that is alive. -/
theorem alive_of_made {program : ProgramId}
    (h : (DeviceCall.mk (.createDrawState mesh program)
      ((DeviceRequest.createDrawState mesh program).run.run r).result).made =
        some (.drawState drawState)) : r.alive (.mesh mesh) := by
  cases hmesh : r.meshes.contains mesh with
  | true => exact hmesh
  | false =>
      have hresult : ((DeviceRequest.createDrawState mesh program).run.run r).result =
          .ok (.error (.unknownHandle "mesh" mesh.id)) := by
        rw [DeviceRequest.run, Action.run_map]
        change _ <$> ((createDrawState mesh program).run r).result = _
        rw [run_createDrawState_of_no_mesh hmesh]
        rfl
      rw [hresult] at h
      cases h

theorem form_drawState_iff :
    r.form (.drawState drawState) = some (.drawState mesh) ↔
      r.drawStates.get? drawState = some mesh := by
  rw [form, kept]
  cases r.drawStates.get? drawState <;> simp [Kept.emptied]

/-- A draw state had its mesh before the step, or the mesh is alive after it. -/
theorem bound_step {step : Step}
    (h : (r.step step).drawStates.get? drawState = some mesh) :
    r.drawStates.get? drawState = some mesh ∨ (r.step step).alive (.mesh mesh) := by
  cases step with
  | failOn | clearDraws => exact .inl h
  | request request =>
      have hdoes := does_run request r
      have hkept : (r.step (.request request)).kept (.drawState drawState) =
          some (.drawState mesh) := congrArg (Option.map Kept.drawState) h
      by_cases hmade : (DeviceCall.mk request (request.run.run r).result).made =
          some (.drawState drawState)
      · right
        obtain ⟨k, hk, hmakes⟩ := hdoes.kept_made hmade
        cases hk.symm.trans hkept
        cases request with
        | createDrawState other program =>
            cases hmakes
            exact alive_step (alive_of_made hmade) nofun
        | createMesh | createProgram | createTexture | destroy | upload | draw => cases hmakes
      · left
        have hdestroy : request ≠ .destroy (.drawState drawState) := by
          rintro rfl
          have hdead := kept_eq_none.2 (hdoes.dead rfl)
          cases hdead.symm.trans hkept
        rw [← form_drawState_iff, ← hdoes.form_eq hmade hdestroy]
        exact form_drawState_iff.2 h

/-- A mesh that a draw state has is alive or was destroyed. -/
theorem alive_or_destroys {steps : List Step}
    (h : (fresh.after steps).drawStates.get? drawState = some mesh) :
    (fresh.after steps).alive (.mesh mesh) ∨ Destroys steps (.mesh mesh) := by
  -- From the end, so that the steps before the last one say which recorder it meets.
  induction steps using List.reverseRecOn with
  | nil => cases h
  | append_singleton steps step ih =>
      rw [after_append] at h ⊢
      obtain hbefore | halive := bound_step h
      · obtain halive | hdestroys := ih hbefore
        · by_cases hstep : step = .request (.destroy (.mesh mesh))
          · exact .inr ⟨steps, [], by rw [hstep], halive⟩
          · exact .inl (alive_step halive hstep)
        · exact .inr (hdestroys.append [step])
      · exact .inl halive

theorem meshVertices_eq_none_iff : r.meshVertices mesh = none ↔ r.alive (.mesh mesh) = false := by
  simp [meshVertices, alive, Table.contains]

/-- Nothing is held of a mesh that a draw state has just when the mesh was destroyed. -/
theorem meshVertices_eq_none_iff_destroys {steps : List Step}
    (h : (fresh.after steps).drawStates.get? drawState = some mesh) :
    (fresh.after steps).meshVertices mesh = none ↔ Destroys steps (.mesh mesh) := by
  rw [meshVertices_eq_none_iff]
  refine ⟨fun hdead => (alive_or_destroys h).resolve_left ?_, fun hdestroys =>
    (gone_of_destroys hdestroys).2⟩
  rw [hdead]
  exact Bool.false_ne_true

end Recorder

end Mosaic
