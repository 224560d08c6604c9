import Mosaic.Proofs.Device.Kept

/-!
# Many calls to a recorder

What one call to a recorder does (`Recorder.Does`) is carried over to a list of calls by induction
along `Device.Serves`. Numbers only grow, so a resource that one of the calls makes is none that was
alive before (`Device.Serves.number_made`), and what the calls neither make nor touch stays as it is
(`Device.Serves.kept_eq`).
-/

namespace Mosaic

theorem madeBy_append (first second : List DeviceCall) :
    madeBy (first ++ second) = madeBy first ++ madeBy second := List.filterMap_append

theorem mem_madeBy_cons {call : DeviceCall} {rest : List DeviceCall} {ρ : Resource} :
    ρ ∈ madeBy (call :: rest) ↔ call.made = some ρ ∨ ρ ∈ madeBy rest := by
  simp [madeBy]

namespace Device

theorem Serves.split {δ : Type} [Device δ] {a c : δ} {first second : List DeviceCall}
    (h : Serves a (first ++ second) c) : ∃ b, Serves a first b ∧ Serves b second c := by
  induction first generalizing a with
  | nil => exact ⟨a, rfl, h⟩
  | cons call rest ih =>
      obtain ⟨b, hrest, hsecond⟩ := ih h.2
      exact ⟨b, ⟨h.1, hrest⟩, hsecond⟩

variable {r r' : Recorder} {calls : List DeviceCall} {ρ : Resource}

theorem Serves.does {call : DeviceCall} (h : Serves r (call :: calls) r') :
    ∃ m, Recorder.Does r call m ∧ Serves m calls r' := by
  refine ⟨_, ?_, h.2⟩
  have hdoes := Recorder.does_run call.request r
  rw [h.1] at hdoes
  exact hdoes

theorem Serves.tidy (h : Serves r calls r') (htidy : r.Tidy) : r'.Tidy := by
  induction calls generalizing r with
  | nil => exact h ▸ htidy
  | cons call calls ih =>
      obtain ⟨m, hdoes, hrest⟩ := h.does
      exact ih hrest (hdoes.tidy htidy)

theorem Serves.lastId_le (h : Serves r calls r') : r.lastId ≤ r'.lastId := by
  induction calls generalizing r with
  | nil => exact Nat.le_of_eq (congrArg _ h.symm)
  | cons call calls ih =>
      obtain ⟨m, hdoes, hrest⟩ := h.does
      exact Nat.le_trans hdoes.lastId_le (ih hrest)

theorem Serves.lastId_le_add (h : Serves r calls r') :
    r'.lastId ≤ r.lastId + calls.countP DeviceCall.spends := by
  induction calls generalizing r with
  | nil => exact Nat.le_of_eq (congrArg _ h)
  | cons call calls ih =>
      obtain ⟨m, hdoes, hrest⟩ := h.does
      have hcall := hdoes.lastId_le_add
      have hcalls := ih hrest
      rw [List.countP_cons]
      omega

theorem Serves.number_made (h : Serves r calls r') (hmade : ρ ∈ madeBy calls) :
    r.lastId < ρ.number ∧ ρ.number ≤ r'.lastId := by
  induction calls generalizing r with
  | nil => cases hmade
  | cons call calls ih =>
      obtain ⟨m, hdoes, hrest⟩ := h.does
      obtain hcall | hcalls := mem_madeBy_cons.1 hmade
      · obtain ⟨hlt, hle⟩ := hdoes.number_made hcall
        exact ⟨hlt, Nat.le_trans hle hrest.lastId_le⟩
      · obtain ⟨hlt, hle⟩ := ih hrest hcalls
        exact ⟨Nat.lt_of_le_of_lt hdoes.lastId_le hlt, hle⟩

/-- The resources that calls make have greater and greater numbers. -/
theorem Serves.pairwise_number (h : Serves r calls r') :
    ((madeBy calls).map Resource.number).Pairwise (· < ·) := by
  induction calls generalizing r with
  | nil => exact .nil
  | cons call calls ih =>
      obtain ⟨m, hdoes, hrest⟩ := h.does
      cases hmade : call.made with
      | none =>
          rw [madeBy, List.filterMap_cons_none hmade]
          exact ih hrest
      | some ρ =>
          rw [madeBy, List.filterMap_cons_some hmade, List.map_cons]
          refine List.pairwise_cons.2 ⟨fun n hn => ?_, ih hrest⟩
          obtain ⟨σ, hσ, rfl⟩ := List.mem_map.1 hn
          exact Nat.lt_of_le_of_lt (hdoes.number_made hmade).2 (hrest.number_made hσ).1

theorem Serves.draws_eq (h : Serves r calls r')
    (hdraw : ∀ call ∈ calls, ∀ d, call.request ≠ .draw d) : r'.draws = r.draws := by
  induction calls generalizing r with
  | nil => exact congrArg _ h
  | cons call calls ih =>
      obtain ⟨m, hdoes, hrest⟩ := h.does
      rw [ih hrest fun other hother => hdraw other (List.mem_cons_of_mem _ hother),
        hdoes.draws_eq (hdraw call List.mem_cons_self)]

theorem Serves.kept_eq (h : Serves r calls r') (hmade : ρ ∉ madeBy calls)
    (htouches : ∀ call ∈ calls, ¬ call.request.Touches ρ) : r'.kept ρ = r.kept ρ := by
  induction calls generalizing r with
  | nil => exact congrArg (Recorder.kept · ρ) h
  | cons call calls ih =>
      obtain ⟨m, hdoes, hrest⟩ := h.does
      rw [mem_madeBy_cons, not_or] at hmade
      rw [ih hrest hmade.2 fun other hother => htouches other (List.mem_cons_of_mem _ hother),
        hdoes.kept_eq hmade.1 (htouches call List.mem_cons_self)]

theorem Serves.form_eq (h : Serves r calls r') (hmade : ρ ∉ madeBy calls)
    (hdestroy : ∀ call ∈ calls, call.request ≠ .destroy ρ) : r'.form ρ = r.form ρ := by
  induction calls generalizing r with
  | nil => exact congrArg (Recorder.form · ρ) h
  | cons call calls ih =>
      obtain ⟨m, hdoes, hrest⟩ := h.does
      rw [mem_madeBy_cons, not_or] at hmade
      rw [ih hrest hmade.2 fun other hother => hdestroy other (List.mem_cons_of_mem _ hother),
        hdoes.form_eq hmade.1 (hdestroy call List.mem_cons_self)]

theorem Serves.alive_eq (h : Serves r calls r') (hmade : ρ ∉ madeBy calls)
    (hdestroy : ∀ call ∈ calls, call.request ≠ .destroy ρ) : r'.alive ρ = r.alive ρ := by
  rw [← Recorder.isSome_form, ← Recorder.isSome_form, h.form_eq hmade hdestroy]

/-- A call that makes a resource is the last one to make it. -/
theorem Serves.split_made (h : Serves r calls r') (hmade : ρ ∈ madeBy calls) :
    ∃ first call second m, calls = first ++ call :: second ∧ call.made = some ρ ∧
      (∃ k, m.kept ρ = some k ∧ call.request.Makes k) ∧ Serves m second r' ∧
      ρ ∉ madeBy second := by
  obtain ⟨call, hcall, hmakes⟩ := List.mem_filterMap.1 hmade
  obtain ⟨first, second, rfl⟩ := List.append_of_mem hcall
  obtain ⟨b, -, hserves⟩ := h.split
  obtain ⟨m, hdoes, hsecond⟩ := hserves.does
  refine ⟨first, call, second, m, rfl, hmakes, hdoes.kept_made hmakes, hsecond, fun hagain => ?_⟩
  exact absurd (hsecond.number_made hagain).1 (Nat.not_lt.2 (hdoes.number_made hmakes).2)

/-- What is made and not destroyed is alive, and it has the form in which it was made. -/
theorem Serves.form_made (h : Serves r calls r') (hmade : ρ ∈ madeBy calls)
    (hdestroy : ∀ call ∈ calls, call.request ≠ .destroy ρ) :
    ∃ call ∈ calls, call.made = some ρ ∧
      ∃ k, r'.form ρ = some k.emptied ∧ call.request.Makes k := by
  obtain ⟨first, call, second, m, rfl, hcall, ⟨k, hkept, hmakes⟩, hsecond, hagain⟩ :=
    h.split_made hmade
  refine ⟨call, by simp, hcall, k, ?_, hmakes⟩
  rw [hsecond.form_eq hagain fun other hother => hdestroy other (by simp [hother]),
    Recorder.form, hkept]
  rfl

/-- Only a creation makes a resource. -/
theorem Serves.isCreation_of_made (h : Serves r calls r') (hmade : ρ ∈ madeBy calls) :
    ∃ call ∈ calls, call.request.isCreation := by
  obtain ⟨first, call, second, m, rfl, -, ⟨k, -, hmakes⟩, -⟩ := h.split_made hmade
  refine ⟨call, by simp, ?_⟩
  generalize call.request = request at hmakes
  cases request <;> first | rfl | cases hmakes

/-- A call stops where no number is left for a resource, or at a mesh that is too large. -/
theorem Serves.stop (h : Serves r calls r') {call : DeviceCall} (hcall : call ∈ calls)
    {fault : Fault} (hfault : call.answer = .error fault) :
    call.request.isCreation ∧
      (Bounded.Width.bits32.count ≤ r.lastId + calls.countP DeviceCall.spends ∨
        ∃ layout, call.request = .createMesh layout ∧ layout.byteSize = .error fault) := by
  obtain ⟨first, second, rfl⟩ := List.append_of_mem hcall
  obtain ⟨b, hfirst, hserves⟩ := h.split
  obtain ⟨m, hdoes, -⟩ := hserves.does
  obtain ⟨hspends, hstop⟩ := hdoes.stop hfault
  refine ⟨?_, hstop.imp_left fun hnumber => ?_⟩
  · obtain ⟨request, answer⟩ := call
    cases hfault
    exact hspends
  · have hcount := hfirst.lastId_le_add
    rw [List.countP_append, List.countP_cons, if_pos hspends]
    omega

/-- Nothing is alive that was not alive before or made meanwhile. -/
theorem Serves.alive_before (h : Serves r calls r') (halive : r'.alive ρ) :
    r.alive ρ ∨ ρ ∈ madeBy calls := by
  induction calls generalizing r with
  | nil => exact .inl (h ▸ halive)
  | cons call calls ih =>
      obtain ⟨m, hdoes, hrest⟩ := h.does
      rw [mem_madeBy_cons]
      obtain hm | hmade := ih hrest
      · exact (hdoes.alive_before hm).imp_right .inl
      · exact .inr (.inr hmade)

/-- What a call is to destroy is not alive afterwards, unless it is made again. -/
theorem Serves.dead {first second : List DeviceCall} {call : DeviceCall}
    (h : Serves r (first ++ call :: second) r') (hdestroy : call.request = .destroy ρ)
    (hmade : ρ ∉ madeBy second) : r'.alive ρ = false := by
  obtain ⟨b, -, hserves⟩ := h.split
  obtain ⟨m, hdoes, hsecond⟩ := hserves.does
  refine Bool.eq_false_iff.2 fun halive => ?_
  obtain hm | hagain := hsecond.alive_before halive
  · rw [hdoes.dead hdestroy] at hm
    cases hm
  · exact hmade hagain

end Device

end Mosaic
