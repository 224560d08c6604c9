import Mosaic.Proofs.Action

/-!
# Actions of which only a part is seen

`Action.Shadows view action shadow` says that an action, of whose state only a view is seen, looks
like another action on that view: it answers, notes and stops alike. Nothing that is not seen then
has a part in what the first action does, so state may be added to a program, to record what it
does, without changing it.
-/

namespace Mosaic

namespace Action

variable {σ τ σ' τ' α β : Type}

/-- Every run of `action` looks through `view` like a run of `shadow`. -/
def Shadows (view : σ → τ) (action : Action σ α) (shadow : Action τ α) : Prop :=
  ∀ s, shadow.run (view s) =
    ⟨(action.run s).result, view (action.run s).state, (action.run s).notes⟩

variable {view : σ → τ}

theorem shadows_pure (a : α) : Shadows view (pure a) (pure a) := fun _ => rfl

theorem shadows_ofExcept (result : Except Fault α) :
    Shadows view (ofExcept result) (ofExcept result) := fun _ => rfl

theorem shadows_note (n : Note) : Shadows view (note n) (note n) := fun _ => rfl

theorem shadows_modify {change : σ → σ} {change' : τ → τ}
    (h : ∀ s, change' (view s) = view (change s)) :
    Shadows view (modify change) (modify change') := by
  intro s
  rw [run_modify, run_modify, h]

theorem shadows_get_bind {next : σ → Action σ α} {next' : τ → Action τ α}
    (h : ∀ s, Shadows view (next s) (next' (view s))) :
    Shadows view (get >>= next) (get >>= next') := fun s => h s s

theorem shadows_bind {action : Action σ α} {shadow : Action τ α} {next : α → Action σ β}
    {next' : α → Action τ β} (h : Shadows view action shadow)
    (hnext : ∀ a, Shadows view (next a) (next' a)) :
    Shadows view (action >>= next) (shadow >>= next') := by
  intro s
  have hs := h s
  rw [run_bind, run_bind, hs]
  generalize action.run s = outcome
  rcases outcome with ⟨fault | a, t, notes⟩
  · rfl
  · dsimp only
    rw [hnext a t]

theorem shadows_onFault {action : Action σ α} {shadow : Action τ α} {clean : Action σ Unit}
    {clean' : Action τ Unit} (h : Shadows view action shadow)
    (hclean : Shadows view clean clean') :
    Shadows view (action.onFault clean) (shadow.onFault clean') := by
  intro s
  have hs := h s
  rw [run, onFault, run, onFault]
  rw [run] at hs
  rw [hs, run]
  generalize action s = outcome
  rcases outcome with ⟨fault | a, t, notes⟩
  · have ht := hclean t
    rw [run] at ht
    dsimp only
    rw [ht]
    rfl
  · rfl

theorem shadows_orClean {ε : Type} {action : Action σ (Except ε α)}
    {shadow : Action τ (Except ε α)} {clean : Action σ Unit} {clean' : Action τ Unit}
    (h : Shadows view action shadow) (hclean : Shadows view clean clean') :
    Shadows view (action.orClean clean) (shadow.orClean clean') := by
  refine shadows_bind (shadows_onFault h hclean) fun answer => ?_
  cases answer with
  | ok a => exact shadows_pure _
  | error e => exact shadows_bind hclean fun _ => shadows_pure _

/-- A part of the state, looked at through a view of its own. -/
theorem shadows_part {look : σ → σ'} {update : σ' → σ → σ} {look' : τ → τ'}
    {update' : τ' → τ → τ} {inner : σ' → τ'} {action : Action σ' α} {shadow : Action τ' α}
    (h : Shadows inner action shadow) (hlook : ∀ s, look' (view s) = inner (look s))
    (hupdate : ∀ t s, update' (inner t) (view s) = view (update t s)) :
    Shadows view (part look update action) (part look' update' shadow) := by
  intro s
  rw [run_part, run_part, hlook, h]
  dsimp only
  rw [hupdate]

end Action

end Mosaic
