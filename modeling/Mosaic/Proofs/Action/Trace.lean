import Mosaic.Proofs.Action

/-!
# What a run does and says

`Action.Traces R action` says that every run of an action takes its state, by the notes that it
makes, to one that `R` relates it to, whether the run answers or stops. It is to states and notes
what `Action.Follows` is to states: for a relation that runs can be put together in (`IsTrace`) it
is closed under all the ways in which actions are put together.
-/

namespace Mosaic

namespace Action

variable {σ τ α β : Type}

/-- Runs that a relation allows can be put one after the other. -/
class IsTrace (R : σ → List Note → σ → Prop) : Prop where
  refl : ∀ s, R s [] s
  trans : ∀ s t u notes more, R s notes t → R t more u → R s (notes ++ more) u

/-- Every run of the action takes its state, by its notes, to one that `R` relates it to. -/
def Traces (R : σ → List Note → σ → Prop) (action : Action σ α) : Prop :=
  ∀ s, R s (action.run s).notes (action.run s).state

section Traces

variable {R : σ → List Note → σ → Prop}

theorem traces_note {n : Note} (h : ∀ s, R s [n] s) : Traces R (note n) := h

theorem traces_modify {change : σ → σ} (h : ∀ s, R s [] (change s)) :
    Traces R (modify change) := h

variable [IsTrace R]

theorem traces_pure (a : α) : Traces R (pure a : Action σ α) := IsTrace.refl

theorem traces_get : Traces R (get : Action σ σ) := IsTrace.refl

theorem traces_query (question : σ → Except Fault α) : Traces R (query question) := IsTrace.refl

theorem traces_ofExcept (result : Except Fault α) :
    Traces R (ofExcept result : Action σ α) := IsTrace.refl

theorem traces_fault (f : Fault) : Traces R (fault f : Action σ α) := IsTrace.refl

theorem traces_bind {action : Action σ α} {next : α → Action σ β} (h : Traces R action)
    (hnext : ∀ a, Traces R (next a)) : Traces R (action >>= next) := by
  intro s
  have hs := h s
  rw [run_bind]
  generalize action.run s = outcome at hs ⊢
  rcases outcome with ⟨_ | a, t, notes⟩
  · exact hs
  · exact IsTrace.trans s t _ notes _ hs (hnext a t)

theorem traces_map {action : Action σ α} (h : Traces R action) (f : α → β) :
    Traces R (f <$> action) := traces_bind h fun a => traces_pure (f a)

theorem traces_each {action : α → Action σ Unit} {as : List α}
    (h : ∀ a ∈ as, Traces R (action a)) : Traces R (each action as) := by
  induction as with
  | nil => exact traces_pure ()
  | cons a as ih =>
      rw [each_cons]
      exact traces_bind (h a List.mem_cons_self) fun _ =>
        ih fun b hb => h b (List.mem_cons_of_mem a hb)

theorem traces_onFault {action : Action σ α} {clean : Action σ Unit} (h : Traces R action)
    (hclean : Traces R clean) : Traces R (action.onFault clean) := by
  intro s
  have hs := h s
  simp only [run, onFault] at hs ⊢
  generalize action s = outcome at hs ⊢
  rcases outcome with ⟨fault | a, t, notes⟩
  · exact IsTrace.trans s t _ notes _ hs (hclean t)
  · exact hs

theorem traces_orClean {ε : Type} {action : Action σ (Except ε α)} {clean : Action σ Unit}
    (h : Traces R action) (hclean : Traces R clean) : Traces R (action.orClean clean) := by
  refine traces_bind (traces_onFault h hclean) fun answer => ?_
  cases answer with
  | ok a => exact traces_pure _
  | error e => exact traces_bind hclean fun _ => traces_pure _

end Traces

theorem traces_part {R : σ → List Note → σ → Prop} {Q : τ → List Note → τ → Prop} {view : σ → τ}
    {update : τ → σ → σ} {action : Action τ α} (h : Traces Q action)
    (hview : ∀ s notes t, Q (view s) notes t → R s notes (update t s)) :
    Traces R (part view update action) := by
  intro s
  rw [run_part]
  exact hview s _ _ (h (view s))

/-! ### Notes of one kind -/

/-- Only notes for which `P` holds are made. -/
def NotesOnly (P : Note → Prop) (_ : σ) (notes : List Note) (_ : σ) : Prop := ∀ n ∈ notes, P n

instance (P : Note → Prop) : IsTrace (σ := σ) (NotesOnly P) where
  refl _ _ h := absurd h List.not_mem_nil
  trans _ _ _ _ _ h h' n hn := (List.mem_append.1 hn).elim (h n) (h' n)

theorem notesOnly_singleton {P : Note → Prop} {n : Note} (h : P n) (s t : σ) :
    NotesOnly P s [n] t := by
  intro m hm
  rwa [List.mem_singleton.1 hm]

theorem notesOnly_note {P : Note → Prop} {n : Note} (h : P n) :
    Traces (NotesOnly P) (note n : Action σ Unit) :=
  fun s => notesOnly_singleton h s s

/-! ### Nothing but lines of the log -/

/-- Only lines of the log are noted. -/
def LogsOnly (_ : σ) (notes : List Note) (_ : σ) : Prop :=
  ∀ n ∈ notes, ∃ level text, n = .log level text

instance : IsTrace (σ := σ) LogsOnly where
  refl _ _ h := absurd h List.not_mem_nil
  trans _ _ _ _ _ h h' n hn := (List.mem_append.1 hn).elim (h n) (h' n)

theorem logsOnly_modify (change : σ → σ) : Traces LogsOnly (modify change) :=
  traces_modify fun _ _ h => absurd h List.not_mem_nil

/-- What a relation allows with each line of the log it allows with several. -/
theorem trace_of_logsOnly {R : σ → List Note → σ → Prop} [IsTrace R]
    (hlog : ∀ s level text, R s [.log level text] s) {notes : List Note}
    (h : ∀ n ∈ notes, ∃ level text, n = .log level text) (s : σ) : R s notes s := by
  induction notes with
  | nil => exact IsTrace.refl s
  | cons n rest ih =>
      obtain ⟨level, text, rfl⟩ := h n List.mem_cons_self
      exact IsTrace.trans s s s [_] rest (hlog s level text)
        (ih fun m hm => h m (List.mem_cons_of_mem _ hm))

end Action

end Mosaic
