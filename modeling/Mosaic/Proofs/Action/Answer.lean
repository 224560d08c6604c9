import Mosaic.Proofs.Action

/-!
# What an action answers

`Action.Answers P action` says of every run that answers that `P` relates the state before, the
answer and the state after. Runs that stop are not asked about. An action that is put together from
others answers as they let it, one after the other.

The `effects` of a run are what it does outside of its state: commands to a graphics processor and
requests to a platform, but not lines of the log and remarks.
-/

namespace Mosaic

/-! ### Effects -/

/-- The note is of a command or a request. -/
def Note.acts : Note → Bool
  | .gpu _ | .window _ => true
  | .log _ _ | .remark _ => false

/-- The commands and requests among the notes. -/
def effects (notes : List Note) : List Note := notes.filter Note.acts

@[simp] theorem effects_nil : effects [] = [] := rfl

@[simp] theorem effects_append (first second : List Note) :
    effects (first ++ second) = effects first ++ effects second := List.filter_append _ _

@[simp] theorem effects_gpu (command : GpuCommand) (rest : List Note) :
    effects (.gpu command :: rest) = .gpu command :: effects rest := rfl

@[simp] theorem effects_window (request : WindowRequest) (rest : List Note) :
    effects (.window request :: rest) = .window request :: effects rest := rfl

@[simp] theorem effects_log (level : LogLevel) (text : String) (rest : List Note) :
    effects (.log level text :: rest) = effects rest := rfl

theorem effects_of_logs {notes : List Note} (h : ∀ n ∈ notes, ∃ level text, n = .log level text) :
    effects notes = [] := by
  refine List.filter_eq_nil_iff.2 fun n hn => ?_
  obtain ⟨level, text, rfl⟩ := h n hn
  exact Bool.false_ne_true

namespace Action

variable {σ α β : Type} {P : σ → α → σ → Prop}

/-! ### Answers -/

/-- Of every run that answers, `P` holds. -/
def Answers (P : σ → α → σ → Prop) (action : Action σ α) : Prop :=
  ∀ s a, (action.run s).result = .ok a → P s a (action.run s).state

theorem answers_pure {a : α} (h : ∀ s, P s a s) : Answers P (pure a) := by
  intro s b hb
  cases hb
  exact h s

theorem answers_note {P : σ → Unit → σ → Prop} {n : Note} (h : ∀ s, P s () s) :
    Answers P (note n) := fun s _ _ => h s

theorem answers_modify_bind {change : σ → σ} {next : Unit → Action σ α}
    (h : Answers (fun t a u => ∀ s, t = change s → P s a u) (next ())) :
    Answers P (modify change >>= next) := fun s a ha => h (change s) a ha s rfl

theorem answers_get_bind {next : σ → Action σ α} (h : ∀ s, Answers P (next s)) :
    Answers P (get >>= next) := fun s => h s s

/-- The first action answers as `Q` says, and the second one goes on from there. -/
theorem answers_bind {Q : σ → α → σ → Prop} {P : σ → β → σ → Prop} {action : Action σ α}
    {next : α → Action σ β} (h : Answers Q action)
    (hnext : ∀ a, Answers (fun t b u => ∀ s, Q s a t → P s b u) (next a)) :
    Answers P (action >>= next) := by
  intro s b hb
  have hs := h s
  rw [run_bind] at hb ⊢
  generalize action.run s = outcome at hs hb ⊢
  rcases outcome with ⟨fault | a, t, notes⟩
  · cases hb
  · exact hnext a t b hb s (hs a rfl)

theorem answers_note_bind {n : Note} {next : Unit → Action σ α} (h : Answers P (next ())) :
    Answers P (note n >>= next) := h

theorem answers_ofExcept_bind {result : Except Fault β} {next : β → Action σ α}
    (h : ∀ b, Answers P (next b)) : Answers P (ofExcept result >>= next) := by
  intro s a ha
  rw [run_ofExcept_bind] at ha ⊢
  cases result with
  | error fault => cases ha
  | ok b => exact h b s a ha

theorem Answers.mono {Q : σ → α → σ → Prop} {action : Action σ α} (h : Answers Q action)
    (hQ : ∀ s a t, Q s a t → P s a t) : Answers P action :=
  fun s a ha => hQ _ _ _ (h s a ha)

/-- Cleaning up comes before the answer of an error and goes unnoticed otherwise. -/
theorem answers_orClean {ε : Type} {P : σ → Except ε α → σ → Prop}
    {action : Action σ (Except ε α)} {clean : Action σ Unit} (h : Answers P action)
    (hclean : ∀ s e t, P s (.error e) t → P s (.error e) (clean.run t).state) :
    Answers P (action.orClean clean) := by
  have honFault : Answers P (action.onFault clean) := by
    intro s a ha
    have hs := h s
    simp only [run, onFault] at ha hs ⊢
    generalize action s = outcome at ha hs ⊢
    rcases outcome with ⟨fault | b, t, notes⟩
    · cases ha
    · exact hs a ha
  refine answers_bind honFault fun answer => ?_
  cases answer with
  | ok a => exact answers_pure fun s _ hP => hP
  | error e =>
      intro t b hb s hP
      rw [run_bind_pure] at hb ⊢
      cases hresult : (clean.run t).result with
      | error fault =>
          rw [hresult] at hb
          cases hb
      | ok u =>
          rw [hresult] at hb
          cases hb
          exact hclean s e t hP

end Action

end Mosaic
