import Mosaic.Proofs.Device.Acquire
import Mosaic.Proofs.Device.History

/-!
# Making and destroying the resources of a canvas on a recorder

A recorder is `Reached` when it comes from a fresh one by any calls. On such a recorder four
creations that succeed add four resources as they were planned, and creations that are rolled back
leave everything that is kept as it was.
-/

namespace Mosaic

/-- A request for a resource leaves all others alone. -/
theorem DeviceRequest.not_touches_of_isCreation {request : DeviceRequest} (h : request.isCreation)
    (ρ : Resource) : ¬ request.Touches ρ := by
  cases request with
  | createMesh | createProgram | createDrawState | createTexture => exact id
  | destroy | upload | draw => cases h

theorem DeviceRequest.ne_destroy_of_not_touches {request : DeviceRequest} {ρ : Resource}
    (h : ¬ request.Touches ρ) : request ≠ .destroy ρ := fun e => h (e ▸ rfl)

/-! ### Recorders that calls lead to -/

namespace Recorder

/-- A recorder that calls lead to. -/
inductive Reached : Recorder → Prop
  | fresh : Reached fresh
  | request {r : Recorder} (h : Reached r) (request : DeviceRequest) :
      Reached (request.run.run r).state
  | failOn {r : Recorder} (h : Reached r) (kind : ResourceKind) :
      Reached ((failOn kind).run r).state
  | clearDraws {r : Recorder} (h : Reached r) : Reached (clearDraws.run r).state

theorem Reached.serves {r r' : Recorder} {calls : List DeviceCall} (hr : r.Reached)
    (h : Device.Serves r calls r') : r'.Reached := by
  induction calls generalizing r with
  | nil => exact h ▸ hr
  | cons call calls ih => exact ih (hr.request call.request) h.2

theorem Reached.tidy {r : Recorder} (h : r.Reached) : r.Tidy := by
  induction h with
  | fresh => exact ⟨.nil, .nil, .nil, .nil⟩
  | request _ q ih => exact (does_run q _).tidy ih
  | failOn _ _ ih | clearDraws _ ih => exact { ih with }

/-- No resource is alive with a number that is still to be given. -/
def Numbered (r : Recorder) : Prop := ∀ ρ, r.alive ρ → ρ.number ≤ r.lastId

theorem Does.numbered {r r' : Recorder} {call : DeviceCall} (h : Does r call r')
    (hr : r.Numbered) : r'.Numbered := by
  intro ρ halive
  obtain hbefore | hmade := h.alive_before halive
  · exact Nat.le_trans (hr ρ hbefore) h.lastId_le
  · exact (h.number_made hmade).2

theorem Reached.numbered {r : Recorder} (h : r.Reached) : r.Numbered := by
  induction h with
  | fresh =>
      intro ρ halive
      cases ρ <;> cases halive
  | request _ q ih => exact (does_run q _).numbered ih
  | failOn _ _ ih | clearDraws _ ih =>
      intro ρ halive
      exact ih ρ (by cases ρ <;> exact halive)

/-- Recorders are counted by the resources that one has beyond the other. -/
theorem live_add {r r' : Recorder} (hr : r.Tidy) (hr' : r'.Tidy) {more : List Resource}
    (hmore : more.Nodup) (hnew : ∀ ρ ∈ more, r.alive ρ = false)
    (h : ∀ ρ, r'.alive ρ ↔ r.alive ρ ∨ ρ ∈ more) : r'.live = r.live + more.length := by
  have hnodup : (r.resources ++ more).Nodup := by
    refine List.nodup_append.2 ⟨hr.nodup, hmore, fun ρ hρ σ hσ e => ?_⟩
    rw [mem_resources_iff, e, hnew σ hσ] at hρ
    cases hρ
  have hperm : r'.resources.Perm (r.resources ++ more) := by
    refine (List.perm_ext_iff_of_nodup hr'.nodup hnodup).2 fun ρ => ?_
    rw [List.mem_append, mem_resources_iff, mem_resources_iff, h]
  rw [← length_resources, ← length_resources, hperm.length_eq, List.length_append]

end Recorder

namespace ResourceSet

variable {layout : MeshLayout} {image : Image} (set : ResourceSet)

/-! ### The calls -/

theorem madeBy_zipWith_making {requests : List DeviceRequest} {resources : List Resource}
    (h : requests.length = resources.length) :
    madeBy (List.zipWith DeviceCall.making requests resources) = resources := by
  induction requests generalizing resources with
  | nil => exact (List.length_eq_zero_iff.1 h.symm).symm
  | cons request requests ih =>
      obtain ⟨ρ, resources, rfl⟩ := List.exists_cons_of_length_eq_add_one h.symm
      have hrest := ih (Nat.succ.inj h)
      simp only [madeBy] at hrest
      simp [madeBy, hrest]

theorem madeBy_take_creations (k : Nat) :
    madeBy ((set.creations layout image).take k) = set.toList.take k := by
  rw [creations, List.take_zipWith]
  exact madeBy_zipWith_making (by simp [requests, toList])

theorem madeBy_creations : madeBy (set.creations layout image) = set.toList :=
  set.madeBy_take_creations 4

theorem isCreation_of_mem_requests {request : DeviceRequest}
    (h : request ∈ set.requests layout image) : request.isCreation := by
  simp only [requests, List.mem_cons, List.not_mem_nil, or_false] at h
  obtain rfl | rfl | rfl | rfl := h <;> rfl

theorem layout_of_mem_requests {other : MeshLayout}
    (h : .createMesh other ∈ set.requests layout image) : other = layout := by
  simpa [requests] using h

theorem isCreation_of_mem_creations {call : DeviceCall} (h : call ∈ set.creations layout image) :
    call.request.isCreation := by
  simp only [creations, requests, toList, List.zipWith_cons_cons, List.zipWith_nil_right,
    List.mem_cons, List.not_mem_nil, or_false] at h
  obtain rfl | rfl | rfl | rfl := h <;> rfl

theorem answer_of_mem_creations {call : DeviceCall} (h : call ∈ set.creations layout image) :
    ∃ ρ, call.answer = .ok (.ok (some ρ)) := by
  simp only [creations, requests, toList, List.zipWith_cons_cons, List.zipWith_nil_right,
    List.mem_cons, List.not_mem_nil, or_false] at h
  obtain rfl | rfl | rfl | rfl := h <;> exact ⟨_, rfl⟩

@[simp] theorem madeBy_destructions (resources : List Resource) :
    madeBy (destructions resources) = [] := by
  simp [madeBy, destructions]

theorem mem_destructions {resources : List Resource} {call : DeviceCall} :
    call ∈ destructions resources ↔ ∃ ρ ∈ resources, call = .doing (.destroy ρ) := by
  simp [destructions, eq_comm]

theorem madeBy_abandoned (k : Nat) (request : DeviceRequest) (e : DeviceError) :
    madeBy (set.abandoned layout image k request e) = set.toList.take k := by
  rw [abandoned, List.append_cons, madeBy_append, madeBy_append, madeBy_take_creations,
    madeBy_destructions, List.append_nil]
  exact List.append_nil _

/-- Calls that are undone create, or destroy what was made. -/
theorem of_mem_abandoned {k : Nat} {request : DeviceRequest} {e : DeviceError}
    (hrequest : (set.requests layout image)[k]? = some request) {call : DeviceCall}
    (h : call ∈ set.abandoned layout image k request e) :
    call.request.isCreation ∨ ∃ ρ ∈ set.toList.take k, call = .doing (.destroy ρ) := by
  rw [abandoned, List.mem_append, List.mem_cons] at h
  obtain h | rfl | h := h
  · exact .inl (set.isCreation_of_mem_creations (List.mem_of_mem_take h))
  · exact .inl (set.isCreation_of_mem_requests (List.mem_of_getElem? hrequest))
  · obtain ⟨ρ, hρ, rfl⟩ := mem_destructions.1 h
    exact .inr ⟨ρ, List.mem_reverse.1 hρ, rfl⟩

/-! ### On a recorder -/

/-- What is to be kept of the resources of a set. -/
def plan (capacity : Nat) (image : Image) : Resource → Kept
  | .mesh _ => .mesh ⟨capacity, []⟩
  | .program _ => .program
  | .drawState _ => .drawState set.mesh
  | .texture _ => .texture (image.width, image.height)

variable {set} {r r' : Recorder}

/-- Resources that were made are as they were planned. -/
theorem form_creations {capacity : Nat} (hsize : layout.byteSize = .ok capacity)
    (h : Device.Serves r (set.creations layout image) r') {ρ : Resource} (hρ : ρ ∈ set.toList) :
    r'.form ρ = some (set.plan capacity image ρ) := by
  have hdestroy : ∀ call ∈ set.creations layout image, call.request ≠ .destroy ρ :=
    fun call hcall => DeviceRequest.ne_destroy_of_not_touches
      (DeviceRequest.not_touches_of_isCreation (set.isCreation_of_mem_creations hcall) ρ)
  obtain ⟨call, hcall, hmade, k, hform, hmakes⟩ :=
    h.form_made (set.madeBy_creations.symm ▸ hρ) hdestroy
  rw [hform]
  simp only [creations, requests, toList, List.zipWith_cons_cons, List.zipWith_nil_right,
    List.mem_cons, List.not_mem_nil, or_false] at hcall
  -- Each request is kept as one kind only.
  obtain rfl | rfl | rfl | rfl := hcall
  all_goals
    cases hmade
    cases k <;> try cases hmakes
  · rename_i hcapacity hvertices
    rw [hsize] at hcapacity
    cases hcapacity
    rfl
  · rfl
  · rfl
  · rfl

theorem alive_creations {capacity : Nat} (hsize : layout.byteSize = .ok capacity)
    (h : Device.Serves r (set.creations layout image) r') {ρ : Resource} (hρ : ρ ∈ set.toList) :
    r'.alive ρ := by
  rw [← Recorder.isSome_form, form_creations hsize h hρ]
  rfl

theorem dead_of_destructions {first : List DeviceCall} {resources : List Resource}
    (h : Device.Serves r (first ++ destructions resources) r') {ρ : Resource}
    (hρ : ρ ∈ resources) : r'.alive ρ = false := by
  obtain ⟨before, after, hsplit⟩ := List.append_of_mem (mem_destructions.2 ⟨ρ, hρ, rfl⟩)
  have hmade : ρ ∉ madeBy after := by
    have hnone := madeBy_destructions resources
    rw [hsplit, madeBy_append, List.append_eq_nil_iff] at hnone
    exact fun hρ => List.not_mem_nil (hnone.2 ▸ mem_madeBy_cons.2 (.inr hρ))
  rw [hsplit, ← List.append_assoc] at h
  exact h.dead rfl hmade

theorem dead_of_abandoned {k : Nat} {request : DeviceRequest} {e : DeviceError}
    (h : Device.Serves r (set.abandoned layout image k request e) r') {ρ : Resource}
    (hρ : ρ ∈ set.toList.take k) : r'.alive ρ = false := by
  rw [abandoned, List.append_cons] at h
  exact dead_of_destructions h (List.mem_reverse.2 hρ)

/-- Creations that are rolled back leave what is kept as it was. -/
theorem kept_of_abandoned (hr : r.Numbered) {k : Nat} {request : DeviceRequest} {e : DeviceError}
    (hrequest : (set.requests layout image)[k]? = some request)
    (h : Device.Serves r (set.abandoned layout image k request e) r') (ρ : Resource) :
    r'.kept ρ = r.kept ρ := by
  by_cases hmade : ρ ∈ set.toList.take k
  · -- It was not alive before, as its number is new, and it is not alive any more.
    have hbefore : r.alive ρ = false := by
      refine Bool.eq_false_iff.2 fun halive => ?_
      exact absurd (h.number_made (madeBy_abandoned set k request e ▸ hmade)).1
        (Nat.not_lt.2 (hr ρ halive))
    rw [Recorder.kept_eq_none.2 hbefore, Recorder.kept_eq_none.2 (dead_of_abandoned h hmade)]
  · refine h.kept_eq (madeBy_abandoned set k request e ▸ hmade) fun call hcall => ?_
    obtain hcreation | ⟨σ, hσ, rfl⟩ := set.of_mem_abandoned hrequest hcall
    · exact DeviceRequest.not_touches_of_isCreation hcreation ρ
    · exact fun heq => hmade (heq ▸ hσ)

end ResourceSet

end Mosaic
