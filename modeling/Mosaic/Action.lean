import Mosaic.Note

/-!
# Actions

An `Action σ α` runs on a state, notes what an observer sees, and either answers or stops with a
fault. A fault keeps the state that was reached and the notes made so far, so that the effects of
an operation that stopped half way can be stated. A returned error is not a fault: it is part of
the answer.

`Action.part` runs an action on a part of a larger state, and `Action.each` runs one action for
every element of a list.
-/

namespace Mosaic

/-- What came of an action: its answer or fault, the state reached and what was noted. -/
structure Outcome (σ α : Type) where
  result : Except Fault α
  state : σ
  notes : List Note

/-- An operation on a state of type `σ` with an answer of type `α`. -/
def Action (σ α : Type) : Type := σ → Outcome σ α

namespace Action

variable {σ τ α β : Type}

/-- What comes of an action from a state. -/
def run (action : Action σ α) (s : σ) : Outcome σ α := action s

/-- Answers without doing anything. -/
protected def pure (a : α) : Action σ α := fun s => ⟨.ok a, s, []⟩

/-- Runs one action after another, unless the first one stops. When the first one notes nothing, what
comes of the second is the answer as it is, so a long run of silent actions needs no stack. -/
protected def bind (action : Action σ α) (next : α → Action σ β) : Action σ β := fun s =>
  match action s with
  | ⟨.error fault, t, notes⟩ => ⟨.error fault, t, notes⟩
  | ⟨.ok a, t, []⟩ => next a t
  | ⟨.ok a, t, notes⟩ =>
    match next a t with
    | ⟨result, u, more⟩ => ⟨result, u, notes ++ more⟩

instance : Monad (Action σ) where
  pure := Action.pure
  bind := Action.bind

def fault (f : Fault) : Action σ α := fun s => ⟨.error f, s, []⟩

/-- Answers what a computation without effects gives, or stops with its fault. -/
def ofExcept (result : Except Fault α) : Action σ α := fun s => ⟨result, s, []⟩

/-- Answers from the state, which stays as it is. -/
def query (question : σ → Except Fault α) : Action σ α := fun s => ⟨question s, s, []⟩

def get : Action σ σ := fun s => ⟨.ok s, s, []⟩

def modify (change : σ → σ) : Action σ Unit := fun s => ⟨.ok (), change s, []⟩

def note (n : Note) : Action σ Unit := fun s => ⟨.ok (), s, [n]⟩

/-- Adds a line to the log. -/
def log (level : LogLevel) (text : String) : Action σ Unit := note (.log level text)

/-- Commands a graphics processor. -/
def command (c : GpuCommand) : Action σ Unit := note (.gpu c)

def ask (r : WindowRequest) : Action σ Unit := note (.window r)

def part (view : σ → τ) (update : τ → σ → σ) (action : Action τ α) : Action σ α := fun s =>
  match action (view s) with
  | ⟨result, t, notes⟩ => ⟨result, update t s, notes⟩

/-- Runs an action for every element of a list, in order, until one stops. -/
def each (action : α → Action σ Unit) : List α → Action σ Unit
  | [] => Action.pure ()
  | a :: rest => Action.bind (action a) fun _ => each action rest

/-- Runs an action and, if it stops, another one that cleans up before the stop goes on. -/
def onFault (action : Action σ α) (clean : Action σ Unit) : Action σ α := fun s =>
  match action s with
  | ⟨.ok a, t, notes⟩ => ⟨.ok a, t, notes⟩
  | ⟨.error fault, t, notes⟩ =>
    match clean t with
    | ⟨_, u, more⟩ => ⟨.error fault, u, notes ++ more⟩

/-- Runs an action and, if it stops or answers an error, another one that cleans up before the stop
goes on or the error is answered. -/
def orClean {ε : Type} (action : Action σ (Except ε α)) (clean : Action σ Unit) :
    Action σ (Except ε α) := do
  match ← action.onFault clean with
  | .ok a => return .ok a
  | .error e =>
    clean
    return .error e

@[simp] theorem run_pure (a : α) (s : σ) : (pure a : Action σ α).run s = ⟨.ok a, s, []⟩ := rfl

@[simp] theorem run_fault (f : Fault) (s : σ) :
    (fault f : Action σ α).run s = ⟨.error f, s, []⟩ := rfl

@[simp] theorem run_ofExcept (result : Except Fault α) (s : σ) :
    (ofExcept result : Action σ α).run s = ⟨result, s, []⟩ := rfl

@[simp] theorem run_query (question : σ → Except Fault α) (s : σ) :
    (query question).run s = ⟨question s, s, []⟩ := rfl

@[simp] theorem run_get (s : σ) : (get : Action σ σ).run s = ⟨.ok s, s, []⟩ := rfl

@[simp] theorem run_modify (change : σ → σ) (s : σ) :
    (modify change).run s = ⟨.ok (), change s, []⟩ := rfl

@[simp] theorem run_note (n : Note) (s : σ) :
    (note n : Action σ Unit).run s = ⟨.ok (), s, [n]⟩ := rfl

theorem run_bind (action : Action σ α) (next : α → Action σ β) (s : σ) :
    (action >>= next).run s =
      match action.run s with
      | ⟨.ok a, t, notes⟩ =>
        ⟨((next a).run t).result, ((next a).run t).state, notes ++ ((next a).run t).notes⟩
      | ⟨.error fault, t, notes⟩ => ⟨.error fault, t, notes⟩ := by
  simp only [bind, Action.bind, run]
  rcases action s with ⟨_ | a, t, _ | ⟨n, notes⟩⟩ <;> rfl

theorem run_part (view : σ → τ) (update : τ → σ → σ) (action : Action τ α) (s : σ) :
    (part view update action).run s =
      ⟨(action.run (view s)).result, update (action.run (view s)).state s,
        (action.run (view s)).notes⟩ := rfl

@[simp] theorem each_nil (action : α → Action σ Unit) : each action [] = pure () := rfl

theorem each_cons (action : α → Action σ Unit) (a : α) (rest : List α) :
    each action (a :: rest) = action a >>= fun _ => each action rest := rfl

end Action

end Mosaic
