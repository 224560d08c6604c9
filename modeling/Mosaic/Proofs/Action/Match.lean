import Mosaic.Proofs.Action

/-!
# Runs that match

`Action.Matches R first second` says that two actions, on states of different types that `R`
relates, come to the same answer or fault and to states that `R` relates again. What they note may
differ. It is closed under the ways in which actions are put together, so a simulation between two
kinds of states passes from their first operations to all that is built from them.
-/

namespace Mosaic

namespace Action

variable {σ τ α β : Type}

/-- From related states both actions come to the same result and to related states. -/
def Matches (R : σ → τ → Prop) (first : Action σ α) (second : Action τ α) : Prop :=
  ∀ s t, R s t →
    (first.run s).result = (second.run t).result ∧ R (first.run s).state (second.run t).state

variable {R : σ → τ → Prop}

theorem matches_pure (a : α) : Matches R (pure a) (pure a) := fun _ _ h => ⟨rfl, h⟩

theorem matches_ofExcept (result : Except Fault α) :
    Matches R (ofExcept result) (ofExcept result) := fun _ _ h => ⟨rfl, h⟩

theorem matches_fault (f : Fault) : Matches R (fault f : Action σ α) (fault f) :=
  fun _ _ h => ⟨rfl, h⟩

theorem matches_note (first second : Note) : Matches R (note first) (note second) :=
  fun _ _ h => ⟨rfl, h⟩

/-- A note that only the first action makes. -/
theorem matches_note_bind {n : Note} {first : Unit → Action σ α} {second : Action τ α}
    (h : Matches R (first ()) second) : Matches R (note n >>= first) second := by
  intro s t hst
  rw [run_bind, run_note]
  exact h s t hst

theorem matches_query {first : σ → Except Fault α} {second : τ → Except Fault α}
    (h : ∀ s t, R s t → first s = second t) : Matches R (query first) (query second) :=
  fun s t hst => ⟨h s t hst, hst⟩

theorem matches_modify {first : σ → σ} {second : τ → τ}
    (h : ∀ s t, R s t → R (first s) (second t)) : Matches R (modify first) (modify second) :=
  fun s t hst => ⟨rfl, h s t hst⟩

theorem matches_get_bind {first : σ → Action σ α} {second : τ → Action τ α}
    (h : ∀ s t, R s t → Matches R (first s) (second t)) :
    Matches R (get >>= first) (get >>= second) := by
  intro s t hst
  rw [run_get_bind, run_get_bind]
  exact h s t hst s t hst

theorem matches_bind {first : Action σ α} {second : Action τ α} {next : α → Action σ β}
    {next' : α → Action τ β} (h : Matches R first second)
    (hnext : ∀ a, Matches R (next a) (next' a)) :
    Matches R (first >>= next) (second >>= next') := by
  intro s t hst
  obtain ⟨hresult, hstate⟩ := h s t hst
  rw [run_bind, run_bind]
  generalize first.run s = outcome at hresult hstate ⊢
  generalize second.run t = outcome' at hresult hstate ⊢
  obtain ⟨result, s', notes⟩ := outcome
  obtain ⟨result', t', notes'⟩ := outcome'
  cases hresult
  cases result with
  | error fault => exact ⟨rfl, hstate⟩
  | ok a => exact hnext a s' t' hstate

theorem matches_map {first : Action σ α} {second : Action τ α} (h : Matches R first second)
    (f : α → β) : Matches R (f <$> first) (f <$> second) :=
  matches_bind h fun a => matches_pure (f a)

theorem matches_each {first : α → Action σ Unit} {second : α → Action τ Unit} {as : List α}
    (h : ∀ a ∈ as, Matches R (first a) (second a)) :
    Matches R (each first as) (each second as) := by
  induction as with
  | nil => exact matches_pure ()
  | cons a as ih =>
      rw [each_cons, each_cons]
      exact matches_bind (h a List.mem_cons_self) fun _ =>
        ih fun b hb => h b (List.mem_cons_of_mem a hb)

/-- Two actions that match on related parts of the states. -/
theorem matches_part {σ' τ' : Type} {Q : σ' → τ' → Prop} {view : σ → σ'} {view' : τ → τ'}
    {update : σ' → σ → σ} {update' : τ' → τ → τ} {first : Action σ' α} {second : Action τ' α}
    (h : Matches Q first second) (hview : ∀ s t, R s t → Q (view s) (view' t))
    (hupdate : ∀ s t s' t', R s t → Q s' t' → R (update s' s) (update' t' t)) :
    Matches R (part view update first) (part view' update' second) := by
  intro s t hst
  obtain ⟨hresult, hstate⟩ := h _ _ (hview s t hst)
  exact ⟨hresult, hupdate s t _ _ hst hstate⟩

end Action

end Mosaic
