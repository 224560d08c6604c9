import Mosaic.Proofs.Stage.Shared

/-!
# Who owns the resources of a shared recorder

The canvas leaves the resources of others alone, and what it made is gone as soon as it is not set
up. It releases copies of numbers that others may have destroyed meanwhile; that is safe because a
number is given only once.
-/

namespace Mosaic

open CallLog

namespace Shared

variable {s : Shared}

/-- No operation of the canvas touches what others made. -/
theorem Accounted.not_touches (h : s.Accounted) (op : Stage.Operation) {ρ : Resource}
    (hρ : ρ ∈ made .others s.log) : ∀ call ∈ s.stage.calls op, ¬ call.request.Touches ρ := by
  intro call hcall htouches
  have hserves := Stage.serves_calls op s.stage
  have hheld : ∀ a, s.stage.canvas.active = some a → ρ ∉ a.resources.toList :=
    fun a ha hmem => h.apart ρ (h.held a ha ρ hmem) hρ
  have hcreation : ¬ call.request.isCreation := fun hcreation =>
    DeviceRequest.not_touches_of_isCreation hcreation ρ htouches
  have hhandles := Stage.handles s.stage op
  generalize s.stage.calls op = calls at *
  generalize (op.run.run s.stage).state.canvas.active = active at hhandles
  cases hhandles with
  | shown calls hshown =>
      obtain ⟨a, bytes, ha, hrequest⟩ | ⟨d, hrequest⟩ := hshown call hcall
      · rw [hrequest] at htouches
        cases htouches
        exact hheld a ha List.mem_cons_self
      · rw [hrequest] at htouches
        exact htouches
  | opened c set hunset => exact hcreation (set.isCreation_of_mem_creations hcall)
  | refused set k request e hunset hrequest =>
      obtain hcreates | ⟨σ, hσ, rfl⟩ := set.of_mem_abandoned hrequest hcall
      · exact hcreation hcreates
      · -- What is undone was only just made.
        cases htouches
        exact h.not_made hserves hρ (set.madeBy_abandoned k request e ▸ hσ)
  | stopped set k request fault hunset hrequest =>
      obtain hmem | hmem := List.mem_append.1 hcall
      · exact hcreation (set.isCreation_of_mem_creations (List.mem_of_mem_take hmem))
      · rw [List.mem_singleton.1 hmem] at hcreation
        exact hcreation (set.isCreation_of_mem_requests (List.mem_of_getElem? hrequest))
  | closed a ha =>
      obtain ⟨σ, hσ, rfl⟩ := ResourceSet.mem_destructions.1 hcall
      cases htouches
      exact hheld a ha (List.mem_reverse.1 hσ)

theorem Accounted.kept_others (h : s.Accounted) (op : Stage.Operation) {ρ : Resource}
    (hρ : ρ ∈ made .others s.log) :
    (op.run.run s.stage).state.device.kept ρ = s.stage.device.kept ρ := by
  have hserves := Stage.serves_calls op s.stage
  exact hserves.kept_eq (h.not_made hserves hρ) (h.not_touches op hρ)

/-- The canvas's resources that are alive. -/
theorem Accounted.mem_resources_iff (h : s.Accounted)
    (hspent : CallLog.spent s.log < Bounded.Width.bits32.count) {ρ : Resource} :
    (s.stage.device.alive ρ ∧ ρ ∉ made .others s.log) ↔ s.stage.device.alive ρ ∧
      ∃ a, s.stage.canvas.active = some a ∧ ρ ∈ a.resources.toList := by
  refine and_congr_right fun halive => ⟨fun hothers => ?_, fun ⟨a, ha, hmem⟩ => ?_⟩
  · obtain ⟨who, hmade⟩ := h.owner ρ halive
    cases who with
    | canvas => exact h.returned hspent ρ hmade halive
    | others => exact absurd hmade hothers
  · exact h.apart ρ (h.held a ha ρ hmem)

/-- The resources that are alive and that others did not make. -/
def ownResources (s : Shared) : List Resource :=
  s.stage.device.resources.filter (· ∉ made .others s.log)

theorem Accounted.mem_ownResources_iff (h : s.Accounted)
    (hspent : CallLog.spent s.log < Bounded.Width.bits32.count) {ρ : Resource} :
    ρ ∈ s.ownResources ↔ s.stage.device.alive ρ ∧
      ∃ a, s.stage.canvas.active = some a ∧ ρ ∈ a.resources.toList := by
  rw [ownResources, List.mem_filter, Recorder.mem_resources_iff, decide_eq_true_iff,
    h.mem_resources_iff hspent]

theorem Accounted.ownResources_of_unset (h : s.Accounted)
    (hspent : CallLog.spent s.log < Bounded.Width.bits32.count)
    (hunset : s.stage.canvas.active = none) : s.ownResources = [] := by
  refine List.eq_nil_iff_forall_not_mem.2 fun ρ hρ => ?_
  obtain ⟨-, a, ha, -⟩ := (h.mem_ownResources_iff hspent).1 hρ
  rw [hunset] at ha
  cases ha

/-- What is alive and not of others is what the canvas holds, if none of that was lost. -/
theorem Accounted.perm_ownResources (h : s.Accounted)
    (hspent : CallLog.spent s.log < Bounded.Width.bits32.count) {a : Active}
    (ha : s.stage.canvas.active = some a)
    (hlost : ∀ ρ ∈ a.resources.toList, ¬ Lost s.log ρ) :
    s.ownResources.Perm a.resources.toList := by
  have hnodup : s.ownResources.Nodup := h.tidy.nodup.filter _
  refine (List.perm_ext_iff_of_nodup hnodup a.resources.nodup_toList).2 fun ρ => ?_
  rw [h.mem_ownResources_iff hspent]
  constructor
  · rintro ⟨-, b, hb, hρ⟩
    rw [ha] at hb
    cases hb
    exact hρ
  · intro hρ
    refine ⟨?_, a, ha, hρ⟩
    rw [← Recorder.isSome_form, h.backed a ha ρ hρ (hlost ρ hρ)]
    rfl

theorem Accounted.live_eq (h : s.Accounted)
    (hspent : CallLog.spent s.log < Bounded.Width.bits32.count)
    (hlost : ∀ set, s.stage.canvas.resources = some set → ∀ ρ ∈ set.toList, ¬ Lost s.log ρ) :
    s.stage.device.live = s.stage.device.resources.countP (· ∈ made .others s.log) +
      if s.stage.canvas.isValid then 4 else 0 := by
  have hcount : s.ownResources.length = if s.stage.canvas.isValid then 4 else 0 := by
    cases hactive : s.stage.canvas.active with
    | none =>
        rw [h.ownResources_of_unset hspent hactive, Canvas.isValid, hactive]
        rfl
    | some a =>
        have hset : s.stage.canvas.resources = some a.resources := by
          rw [Canvas.resources, hactive]
          rfl
        rw [(h.perm_ownResources hspent hactive (hlost _ hset)).length_eq, Canvas.isValid, hactive]
        rfl
  rw [← Recorder.length_resources, ← hcount, ownResources, ← List.countP_eq_length_filter,
    List.length_eq_countP_add_countP (· ∈ made .others s.log)]
  simp

/-! ### Letting go twice -/

/-- The operations that let go of a canvas. -/
def releases : List Stage.Operation := [.command .discard, .drop]

theorem unset_of_releases (stage : Stage Recorder) {op : Stage.Operation} (hop : op ∈ releases) :
    (op.run.run stage).state.canvas.active = none := by
  have hdiscards : ∀ {canvas calls}, Stage.Discards stage canvas calls → canvas.active = none := by
    rintro canvas calls (h | _ | _)
    · exact h
    · rfl
    · rfl
  obtain rfl | rfl : op = .command .discard ∨ op = .drop := by simpa [releases] using hop
  · exact hdiscards (Stage.discards_discard stage)
  · exact hdiscards (Stage.discards_drop stage)

theorem silent_of_releases {stage : Stage Recorder} (h : stage.canvas.active = none)
    {op : Stage.Operation} (hop : op ∈ releases) :
    stage.calls op = [] ∧ (op.run.run stage).state = stage := by
  have hdiscards : ∀ {canvas calls}, Stage.Discards stage canvas calls → calls = [] := by
    rintro canvas calls (_ | ⟨a, ha⟩ | ⟨a, _, _, _, ha⟩)
    · rfl
    · rw [h] at ha
      cases ha
    · rw [h] at ha
      cases ha
  obtain rfl | rfl : op = .command .discard ∨ op = .drop := by simpa [releases] using hop
  · refine ⟨hdiscards (Stage.discards_discard stage), ?_⟩
    obtain ⟨line, hrun⟩ := Stage.run_discard_of_unset h
    rw [Stage.Operation.run, Stage.Command.run, Action.run_bind_pure, hrun]
  · refine ⟨hdiscards (Stage.discards_drop stage), ?_⟩
    rw [Stage.Operation.run, Action.run_bind_pure, Stage.run_drop_of_unset h]

/-- On a recorder that a canvas shares with others, and over any run: no operation of the canvas
touches what others made or changes what is kept of it. As long as fewer creations were made than
there are numbers, nothing that the canvas ever made is alive while it is not set up, and if none of
what it holds was lost, four resources more are alive than others made while it is set up, and no
more otherwise. To discard or let go of a canvas that was discarded asks nothing of the recorder. -/
theorem ownership_balances (sheet : Sheet) (turns : List Turn) (s : Shared)
    (hs : (fresh sheet).after turns = s) :
    (∀ op, ∀ ρ ∈ made .others s.log,
      (∀ call ∈ s.stage.calls op, ¬ call.request.Touches ρ) ∧
        (op.run.run s.stage).state.device.kept ρ = s.stage.device.kept ρ) ∧
      (CallLog.spent s.log < Bounded.Width.bits32.count →
        (¬ s.stage.canvas.isValid → ∀ ρ ∈ made .canvas s.log, s.stage.device.alive ρ = false) ∧
          ((∀ set, s.stage.canvas.resources = some set → ∀ ρ ∈ set.toList, ¬ Lost s.log ρ) →
            s.stage.device.live =
              s.stage.device.resources.countP (· ∈ made .others s.log) +
                if s.stage.canvas.isValid then 4 else 0)) ∧
      ∀ first ∈ releases, ∀ second ∈ releases,
        (first.run.run s.stage).state.calls second = [] ∧
          (second.run.run (first.run.run s.stage).state).state =
            (first.run.run s.stage).state := by
  have h : s.Accounted := hs ▸ accounted_after sheet turns
  refine ⟨fun op ρ hρ => ⟨h.not_touches op hρ, h.kept_others op hρ⟩, fun hspent => ⟨?_, ?_⟩, ?_⟩
  · intro hunset ρ hρ
    refine Bool.eq_false_iff.2 fun halive => ?_
    obtain ⟨a, ha, -⟩ := h.returned hspent ρ hρ halive
    exact hunset (by rw [Canvas.isValid, ha]; rfl)
  · exact h.live_eq hspent
  · intro first hfirst second hsecond
    exact silent_of_releases (unset_of_releases s.stage hfirst) hsecond

/-- A run in which setting up is undone and then succeeds, and others call for the destruction of a
mesh before the canvas makes it. -/
def crowdedRun : List Turn := [
  .others .createProgram,
  .failOn .texture,
  .canvas (.command (.setup .standard)),
  .others (.destroy (.mesh ⟨5⟩)),
  .canvas (.command (.setup .standard))]

theorem ownership_balances_crowdedRun :
    let s := (fresh Stage.straySheet).after crowdedRun
    (s.stage.canvas.resources = some ⟨⟨5⟩, ⟨6⟩, ⟨7⟩, ⟨8⟩⟩ ∧ s.stage.device.live = 5) ∧
      s.stage.device.resources.countP (· ∈ made .others s.log) = 1 := by
  intro s
  have hspent : CallLog.spent s.log < Bounded.Width.bits32.count := by decide +kernel
  have hset : s.stage.canvas.resources = some ⟨⟨5⟩, ⟨6⟩, ⟨7⟩, ⟨8⟩⟩ := by decide +kernel
  have hlost : ∀ ρ ∈ (ResourceSet.mk ⟨5⟩ ⟨6⟩ ⟨7⟩ ⟨8⟩).toList, ¬ Lost s.log ρ := by decide +kernel
  have hothers : s.stage.device.resources.countP (· ∈ made .others s.log) = 1 := by
    decide +kernel
  have hvalid : s.stage.canvas.isValid = true := by decide +kernel
  have hlive := ((ownership_balances Stage.straySheet crowdedRun s rfl).2.1 hspent).2
    fun set h => by
      rw [hset] at h
      cases h
      exact hlost
  rw [hothers, hvalid] at hlive
  exact ⟨⟨hset, hlive⟩, hothers⟩

end Shared

end Mosaic
