import Mosaic.Device.Basic
import Mosaic.Proofs.Action.Trace

/-!
# Requests to a device

`DeviceRequest` names what can be asked of a device, and a `DeviceCall` is a request with what came
of it. `Device.Serves` says that a list of calls is what a device answers to their requests, one
after the other; for given requests that list is `Device.calls`. A `Watched` device answers like the
device that it watches and lists the calls, so that the calls an action makes can be read off a run
(`Watched.Yields`).
-/

namespace Mosaic

/-- What can be asked of a device. -/
inductive DeviceRequest where
  | createMesh (layout : MeshLayout)
  | createProgram
  | createDrawState (mesh : MeshId) (program : ProgramId)
  | createTexture (image : Image)
  | destroy (resource : Resource)
  | upload (mesh : MeshId) (bytes : List UInt8)
  | draw (call : DrawCall)
  deriving DecidableEq

namespace DeviceRequest

/-- Whether a resource is asked for. -/
def isCreation : DeviceRequest → Bool
  | createMesh _ | createProgram | createDrawState _ _ | createTexture _ => true
  | destroy _ | upload _ _ | draw _ => false

/-- The request is to destroy the resource or to replace what it holds. -/
def Touches (resource : Resource) : DeviceRequest → Prop
  | destroy other => other = resource
  | upload mesh _ => .mesh mesh = resource
  | createMesh _ | createProgram | createDrawState _ _ | createTexture _ | draw _ => False

variable {δ : Type} [Device δ]

/-- Asks a device, which answers the resource that it made, if any was asked for. -/
def run : DeviceRequest → Action δ (Except DeviceError (Option Resource))
  | createMesh layout => (Except.map fun id => some (.mesh id)) <$> Device.createMesh layout
  | createProgram => (Except.map fun id => some (.program id)) <$> Device.createProgram
  | createDrawState mesh program =>
    (Except.map fun id => some (.drawState id)) <$> Device.createDrawState mesh program
  | createTexture image => (Except.map fun id => some (.texture id)) <$> Device.createTexture image
  | destroy resource => (fun _ => .ok none) <$> Device.destroy resource
  | upload mesh bytes => (fun _ => .ok none) <$> Device.upload mesh bytes
  | draw call => (fun _ => .ok none) <$> Device.draw call

end DeviceRequest

/-- A request with what came of it. -/
structure DeviceCall where
  request : DeviceRequest
  answer : Except Fault (Except DeviceError (Option Resource))

namespace DeviceCall

/-- The resource that the call made. -/
def made : DeviceCall → Option Resource
  | ⟨_, .ok (.ok resource)⟩ => resource
  | _ => none

/-- A resource was asked for and not refused. -/
def spends : DeviceCall → Bool
  | ⟨_, .ok (.error _)⟩ => false
  | ⟨request, _⟩ => request.isCreation

/-- A resource was made. -/
def making (request : DeviceRequest) (resource : Resource) : DeviceCall :=
  ⟨request, .ok (.ok (some resource))⟩

/-- A resource was not made. -/
def refusing (request : DeviceRequest) (e : DeviceError) : DeviceCall := ⟨request, .ok (.error e)⟩

/-- A request without an answer was carried out. -/
def doing (request : DeviceRequest) : DeviceCall := ⟨request, .ok (.ok none)⟩

@[simp] theorem made_making (request : DeviceRequest) (resource : Resource) :
    (making request resource).made = some resource := rfl

@[simp] theorem made_refusing (request : DeviceRequest) (e : DeviceError) :
    (refusing request e).made = none := rfl

@[simp] theorem made_doing (request : DeviceRequest) : (doing request).made = none := rfl

end DeviceCall

/-- The resources that calls made, in order. -/
def madeBy (calls : List DeviceCall) : List Resource := calls.filterMap DeviceCall.made

namespace Device

variable {δ : Type} [Device δ]

/-- The device answers the requests of the calls, one after the other, as the calls say, and comes
to another state by them. -/
def Serves (before : δ) : List DeviceCall → δ → Prop
  | [], after => after = before
  | call :: rest, after =>
    (call.request.run.run before).result = call.answer ∧
      Serves (call.request.run.run before).state rest after

theorem Serves.append {a b c : δ} {first second : List DeviceCall} (h : Serves a first b)
    (h' : Serves b second c) : Serves a (first ++ second) c := by
  induction first generalizing a with
  | nil =>
      cases h
      exact h'
  | cons call rest ih => exact ⟨h.1, ih h.2⟩

/-- The requests, one after the other, with what came of each. -/
def calls (device : δ) : List DeviceRequest → List DeviceCall
  | [] => []
  | request :: rest =>
    ⟨request, (request.run.run device).result⟩ :: calls (request.run.run device).state rest

/-- The device after requests. -/
def after (device : δ) (requests : List DeviceRequest) : δ :=
  requests.foldl (fun device request => (request.run.run device).state) device

theorem serves_calls (device : δ) (requests : List DeviceRequest) :
    Serves device (calls device requests) (after device requests) := by
  induction requests generalizing device with
  | nil => rfl
  | cons request rest ih => exact ⟨rfl, ih _⟩

/-- The calls are those that were asked for. -/
theorem request_of_mem_calls {device : δ} {requests : List DeviceRequest} {call : DeviceCall}
    (h : call ∈ calls device requests) : call.request ∈ requests := by
  induction requests generalizing device with
  | nil => cases h
  | cons request rest ih =>
      obtain rfl | h := List.mem_cons.1 h
      · exact List.mem_cons_self
      · exact List.mem_cons_of_mem _ (ih h)

end Device

/-- A device of which every call is listed. -/
structure Watched (δ : Type) where
  device : δ
  /-- The calls so far, oldest first. -/
  calls : List DeviceCall

namespace Watched

variable {δ α : Type}

/-- Carries a request out on the watched device and lists it. -/
def watch (request : DeviceRequest) (answer : α → Except DeviceError (Option Resource))
    (action : Action δ α) : Action (Watched δ) α := fun w =>
  let outcome := action.run w.device
  ⟨outcome.result, ⟨outcome.state, w.calls ++ [⟨request, answer <$> outcome.result⟩]⟩,
    outcome.notes⟩

/-! ### The calls of an action -/

/-- On a watched device every run of the action makes calls that go with its result as `P` says. -/
def Yields (action : Action (Watched δ) α) (P : Except Fault α → List DeviceCall → Prop) : Prop :=
  ∀ w, ∃ calls, (action.run w).state.calls = w.calls ++ calls ∧ P (action.run w).result calls

variable {P : Except Fault α → List DeviceCall → Prop} {β : Type}
  {Q : Except Fault β → List DeviceCall → Prop}

theorem Yields.mono {action : Action (Watched δ) α} (h : Yields action P)
    {P' : Except Fault α → List DeviceCall → Prop} (hP : ∀ result calls, P result calls →
      P' result calls) : Yields action P' := by
  intro w
  obtain ⟨calls, hcalls, hresult⟩ := h w
  exact ⟨calls, hcalls, hP _ _ hresult⟩

theorem yields_pure {a : α} (h : P (.ok a) []) : Yields (pure a : Action (Watched δ) α) P :=
  fun _ => ⟨[], (List.append_nil _).symm, h⟩

theorem yields_note_bind {n : Note} {next : Unit → Action (Watched δ) α}
    (h : Yields (next ()) P) : Yields (Action.note n >>= next) P := by
  intro w
  rw [Action.run_bind, Action.run_note]
  exact h w

theorem yields_watch (request : DeviceRequest) (answer : α → Except DeviceError (Option Resource))
    (action : Action δ α) : Yields (watch request answer action)
      fun result calls => calls = [⟨request, answer <$> result⟩] :=
  fun _ => ⟨_, rfl, rfl⟩

theorem yields_bind {action : Action (Watched δ) α} {next : α → Action (Watched δ) β}
    (h : Yields action P)
    (hnext : ∀ a calls, P (.ok a) calls →
      Yields (next a) fun result more => Q result (calls ++ more))
    (hfault : ∀ fault calls, P (.error fault) calls → Q (.error fault) calls) :
    Yields (action >>= next) Q := by
  intro w
  obtain ⟨calls, hcalls, hresult⟩ := h w
  rw [Action.run_bind]
  generalize action.run w = outcome at hcalls hresult ⊢
  rcases outcome with ⟨fault | a, t, notes⟩
  · exact ⟨calls, hcalls, hfault fault calls hresult⟩
  · obtain ⟨more, hmore, hresult'⟩ := hnext a calls hresult t
    refine ⟨calls ++ more, ?_, hresult'⟩
    rw [hmore, hcalls, List.append_assoc]

/-- Only requests for which `P` holds are made. -/
def Asks (P : DeviceRequest → Prop) (before : Watched δ) (_ : List Note) (after : Watched δ) :
    Prop :=
  (∀ call ∈ before.calls, P call.request) → ∀ call ∈ after.calls, P call.request

instance (P : DeviceRequest → Prop) : Action.IsTrace (Asks (δ := δ) P) where
  refl _ h := h
  trans _ _ _ _ _ h h' := fun hbefore => h' (h hbefore)

theorem asks_watch {P : DeviceRequest → Prop} {request : DeviceRequest} (h : P request)
    (answer : α → Except DeviceError (Option Resource)) (action : Action δ α) :
    Action.Traces (Asks P) (watch request answer action) := by
  intro w hbefore call hcall
  obtain hcall | hcall := List.mem_append.1 hcall
  · exact hbefore call hcall
  · rw [List.mem_singleton.1 hcall]
    exact h

variable [Device δ]

instance : Device (Watched δ) where
  createMesh layout :=
    watch (.createMesh layout) (Except.map fun id => some (.mesh id)) (Device.createMesh layout)
  createProgram :=
    watch .createProgram (Except.map fun id => some (.program id)) Device.createProgram
  createDrawState mesh program :=
    watch (.createDrawState mesh program) (Except.map fun id => some (.drawState id))
      (Device.createDrawState mesh program)
  createTexture image :=
    watch (.createTexture image) (Except.map fun id => some (.texture id))
      (Device.createTexture image)
  destroy resource := watch (.destroy resource) (fun _ => .ok none) (Device.destroy resource)
  upload mesh bytes := watch (.upload mesh bytes) (fun _ => .ok none) (Device.upload mesh bytes)
  draw call := watch (.draw call) (fun _ => .ok none) (Device.draw call)

/-! ### Listing the calls changes nothing -/

/-- The calls in between are what the watched device serves. -/
def Logged (before : Watched δ) (_ : List Note) (after : Watched δ) : Prop :=
  ∃ calls, after.calls = before.calls ++ calls ∧ Device.Serves before.device calls after.device

instance : Action.IsTrace (Logged (δ := δ)) where
  refl w := ⟨[], (List.append_nil _).symm, rfl⟩
  trans _ _ _ _ _ := by
    rintro ⟨calls, hcalls, hserves⟩ ⟨more, hmore, hserves'⟩
    exact ⟨calls ++ more, by rw [hmore, hcalls, List.append_assoc], hserves.append hserves'⟩

theorem logged_watch {request : DeviceRequest} {answer : α → Except DeviceError (Option Resource)}
    {action : Action δ α} (h : request.run = answer <$> action) :
    Action.Traces Logged (watch request answer action) := by
  intro w
  refine ⟨_, rfl, ?_, ?_⟩
  · rw [h, Action.run_map]
  · rw [h, Action.run_map]
    rfl

end Watched

end Mosaic
