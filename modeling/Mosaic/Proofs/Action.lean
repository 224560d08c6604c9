import Mathlib.Order.Defs.Unbundled
import Mosaic.Action

/-!
# What the run of an action does to its state

`Action.Follows R action` says that every run of an action takes its state to one that `R` relates
it to, whether the run answers or stops. For a preorder this is closed under all the ways in which
actions are put together, so an invariant of a long action follows from that of its parts. The
other lemmas open a run from its first action on, where the exact answer and state are asked for.
-/

namespace Mosaic

namespace Action

variable {σ τ α β : Type}

/-! ### Opening a run -/

theorem run_get_bind (next : σ → Action σ β) (s : σ) :
    (get >>= next).run s = (next s).run s := rfl

theorem run_modify_bind (change : σ → σ) (next : Unit → Action σ β) (s : σ) :
    (modify change >>= next).run s = (next ()).run (change s) := rfl

theorem run_query_bind (question : σ → Except Fault α) (next : α → Action σ β) (s : σ) :
    (query question >>= next).run s =
      match question s with
      | .ok a => (next a).run s
      | .error fault => ⟨.error fault, s, []⟩ := by
  rw [run_bind, run_query]
  cases question s <;> rfl

theorem run_ofExcept_bind (result : Except Fault α) (next : α → Action σ β) (s : σ) :
    (ofExcept result >>= next).run s =
      match result with
      | .ok a => (next a).run s
      | .error fault => ⟨.error fault, s, []⟩ := by
  rw [run_bind, run_ofExcept]
  cases result <;> rfl

theorem run_log_bind (level : LogLevel) (text : String) (next : Unit → Action σ β) (s : σ) :
    (log level text >>= next).run s =
      ⟨((next ()).run s).result, ((next ()).run s).state,
        .log level text :: ((next ()).run s).notes⟩ := rfl

/-- Once the first of two actions has answered, the rest of the run is that of the second. -/
theorem run_bind_of_ok {action : Action σ α} {s t : σ} {a : α} {notes : List Note}
    (h : action.run s = ⟨.ok a, t, notes⟩) (next : α → Action σ β) :
    (action >>= next).run s =
      ⟨((next a).run t).result, ((next a).run t).state, notes ++ ((next a).run t).notes⟩ := by
  rw [run_bind, h]

theorem run_bind_of_silent {action : Action σ α} {s t : σ} {a : α}
    (h : action.run s = ⟨.ok a, t, []⟩) (next : α → Action σ β) :
    (action >>= next).run s = (next a).run t := by
  rw [run_bind_of_ok h]
  rfl

theorem run_bind_of_error {action : Action σ α} {s t : σ} {fault : Fault} {notes : List Note}
    (h : action.run s = ⟨.error fault, t, notes⟩) (next : α → Action σ β) :
    (action >>= next).run s = ⟨.error fault, t, notes⟩ := by
  rw [run_bind, h]

theorem run_map (action : Action σ α) (f : α → β) (s : σ) :
    (f <$> action).run s =
      ⟨f <$> (action.run s).result, (action.run s).state, (action.run s).notes⟩ := by
  have h : f <$> action = action >>= fun a => pure (f a) := rfl
  rw [h, run_bind]
  rcases action.run s with ⟨_ | a, t, notes⟩
  · rfl
  · simp only [run_pure, List.append_nil]
    rfl

/-- An answer that does not depend on the action leaves all else of its run as it is. -/
theorem run_bind_pure (action : Action σ α) (b : β) (s : σ) :
    (action >>= fun _ => pure b).run s =
      ⟨(fun _ => b) <$> (action.run s).result, (action.run s).state, (action.run s).notes⟩ :=
  run_map action (fun _ => b) s

/-! ### Cleaning up -/

theorem run_onFault_of_answer {action : Action σ α} {clean : Action σ Unit} {s : σ} {a : α}
    (h : ((action.onFault clean).run s).result = .ok a) :
    (action.onFault clean).run s = action.run s := by
  simp only [run, onFault] at h ⊢
  generalize action s = outcome at h ⊢
  rcases outcome with ⟨fault | b, t, notes⟩
  · cases h
  · rfl

section Clean

variable {ε : Type} {action : Action σ (Except ε α)} {clean : Action σ Unit} {s t u : σ}
  {notes more : List Note}

theorem run_orClean_of_ok {a : α} (h : action.run s = ⟨.ok (.ok a), t, notes⟩) :
    (action.orClean clean).run s = ⟨.ok (.ok a), t, notes⟩ := by
  have honFault : (action.onFault clean).run s = ⟨.ok (.ok a), t, notes⟩ := by
    simp only [run, onFault] at h ⊢
    rw [h]
  rw [orClean, run_bind_of_ok honFault, run_pure, List.append_nil]

theorem run_orClean_of_error {e : ε} (h : action.run s = ⟨.ok (.error e), t, notes⟩)
    (hclean : clean.run t = ⟨.ok (), u, more⟩) :
    (action.orClean clean).run s = ⟨.ok (.error e), u, notes ++ more⟩ := by
  have honFault : (action.onFault clean).run s = ⟨.ok (.error e), t, notes⟩ := by
    simp only [run, onFault] at h ⊢
    rw [h]
  rw [orClean, run_bind_of_ok honFault]
  dsimp only
  rw [run_bind_of_ok hclean, run_pure, List.append_nil]

theorem run_orClean_of_fault {fault : Fault} (h : action.run s = ⟨.error fault, t, notes⟩) :
    (action.orClean clean).run s =
      ⟨.error fault, (clean.run t).state, notes ++ (clean.run t).notes⟩ := by
  have honFault : (action.onFault clean).run s =
      ⟨.error fault, (clean.run t).state, notes ++ (clean.run t).notes⟩ := by
    simp only [run, onFault] at h ⊢
    rw [h]
  exact run_bind_of_error honFault _

end Clean

/-! ### Putting actions together -/

theorem ext_run {first second : Action σ α} (h : ∀ s, first.run s = second.run s) :
    first = second := funext h

theorem bind_assoc {γ : Type} (action : Action σ α) (next : α → Action σ β)
    (last : β → Action σ γ) :
    (action >>= next) >>= last = action >>= fun a => next a >>= last := by
  apply ext_run
  intro s
  rw [run_bind, run_bind, run_bind]
  rcases action.run s with ⟨_ | a, t, notes⟩
  · rfl
  · simp only [run_bind]
    rcases (next a).run t with ⟨_ | b, u, more⟩
    · rfl
    · simp only [List.append_assoc]

theorem each_append (action : α → Action σ Unit) (as bs : List α) :
    each action (as ++ bs) = each action as >>= fun _ => each action bs := by
  induction as with
  | nil => rfl
  | cons a as ih =>
      rw [List.cons_append, each_cons, each_cons, bind_assoc, ih]

theorem each_map (action : β → Action σ Unit) (f : α → β) (as : List α) :
    each action (as.map f) = each (fun a => action (f a)) as := by
  induction as with
  | nil => rfl
  | cons a as ih => rw [List.map_cons, each_cons, each_cons, ih]

theorem each_congr {first second : α → Action σ Unit} {as : List α}
    (h : ∀ a ∈ as, first a = second a) : each first as = each second as := by
  induction as with
  | nil => rfl
  | cons a as ih =>
      rw [each_cons, each_cons, h a List.mem_cons_self,
        ih fun b hb => h b (List.mem_cons_of_mem a hb)]

/-! ### Relations between the states before and after a run -/

/-- Every run of the action takes its state to one that `R` relates it to. -/
def Follows (R : σ → σ → Prop) (action : Action σ α) : Prop :=
  ∀ s, R s (action.run s).state

section Follows

variable {R : σ → σ → Prop}

theorem follows_modify {change : σ → σ} (h : ∀ s, R s (change s)) : Follows R (modify change) := h

variable [IsPreorder σ R]

theorem follows_pure (a : α) : Follows R (pure a : Action σ α) := fun s => refl_of R s

theorem follows_query (question : σ → Except Fault α) : Follows R (query question) :=
  fun s => refl_of R s

theorem follows_ofExcept (result : Except Fault α) :
    Follows R (ofExcept result : Action σ α) := fun s => refl_of R s

theorem follows_get : Follows R (get : Action σ σ) := fun s => refl_of R s

theorem follows_log (level : LogLevel) (text : String) :
    Follows R (log level text : Action σ Unit) := fun s => refl_of R s

theorem follows_bind {action : Action σ α} {next : α → Action σ β} (h : Follows R action)
    (hnext : ∀ a, Follows R (next a)) : Follows R (action >>= next) := by
  intro s
  have hs := h s
  rw [run_bind]
  generalize action.run s = outcome at hs ⊢
  rcases outcome with ⟨_ | a, t, notes⟩
  · exact hs
  · exact trans_of R hs (hnext a t)

theorem follows_map {action : Action σ α} (h : Follows R action) (f : α → β) :
    Follows R (f <$> action) := follows_bind h fun a => follows_pure (f a)

theorem follows_each {action : α → Action σ Unit} {as : List α}
    (h : ∀ a ∈ as, Follows R (action a)) : Follows R (each action as) := by
  induction as with
  | nil => exact follows_pure ()
  | cons a as ih =>
      rw [each_cons]
      exact follows_bind (h a List.mem_cons_self) fun _ =>
        ih fun b hb => h b (List.mem_cons_of_mem a hb)

end Follows

/-- What each of several actions keeps is kept by all of them one after the other. -/
theorem each_keeps {P : σ → Prop} {action : α → Action σ Unit} {as : List α}
    (h : ∀ a ∈ as, ∀ s, P s → P ((action a).run s).state) {s : σ} (hs : P s) :
    P ((each action as).run s).state := by
  induction as generalizing s with
  | nil => exact hs
  | cons a as ih =>
      have hstep := h a List.mem_cons_self s hs
      rw [each_cons, run_bind]
      generalize (action a).run s = outcome at hstep ⊢
      rcases outcome with ⟨_ | u, t, notes⟩
      · exact hstep
      · exact ih (fun b hb => h b (List.mem_cons_of_mem a hb)) hstep

theorem follows_part {R : σ → σ → Prop} {Q : τ → τ → Prop} {view : σ → τ} {update : τ → σ → σ}
    {action : Action τ α} (h : Follows Q action)
    (hview : ∀ s t, Q (view s) t → R s (update t s)) : Follows R (part view update action) := by
  intro s
  rw [run_part]
  exact hview s _ (h (view s))

end Action

end Mosaic
