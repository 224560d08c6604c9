import Mosaic.Proofs.Device.Request

/-!
# Acquiring and releasing the resources of a canvas

What the operations that make and destroy resources all do, acquiring and releasing do as well
(`traces_acquire`, `traces_release`).

`ResourceSet.Acquires` lists what acquiring the resources of a canvas can come to on a device that
answers as it likes, each case with the calls that are made: all four creations, or those before the
first that is refused and then the destruction of what they made, the latest first. A device may
also stop with a fault, which ends the calls.
-/

namespace Mosaic

/-- What holds of every operation that makes or destroys a resource of a device. -/
structure Device.Making {δ : Type} [Device δ] (p : ∀ {α : Type}, Action δ α → Prop) : Prop where
  createMesh : ∀ layout, p (Device.createMesh layout)
  createProgram : p Device.createProgram
  createDrawState : ∀ mesh program, p (Device.createDrawState mesh program)
  createTexture : ∀ image, p (Device.createTexture image)
  destroy : ∀ resource, p (Device.destroy resource)

namespace ResourceSet

section Traces

variable {δ : Type} [Device δ] {R : δ → List Note → δ → Prop} [Action.IsTrace R]

theorem traces_abandon (hlog : ∀ d level text, R d [.log level text] d)
    (hmaking : Device.Making (δ := δ) (Action.Traces R)) (made : List Resource) (e : DeviceError) :
    Action.Traces R (abandon made e) := by
  refine Action.traces_bind (Action.traces_each fun resource _ => ?_) fun _ =>
    Action.traces_pure _
  exact Action.traces_bind (Action.traces_note fun d => hlog d _ _) fun _ =>
    hmaking.destroy resource

theorem traces_acquire (hlog : ∀ d level text, R d [.log level text] d)
    (hmaking : Device.Making (δ := δ) (Action.Traces R)) (layout : MeshLayout) (image : Image) :
    Action.Traces R (acquire layout image) := by
  refine Action.traces_bind (hmaking.createMesh layout) fun mesh => ?_
  cases mesh with
  | error e => exact traces_abandon hlog hmaking _ e
  | ok mesh =>
  refine Action.traces_bind hmaking.createProgram fun program => ?_
  cases program with
  | error e => exact traces_abandon hlog hmaking _ e
  | ok program =>
  refine Action.traces_bind (hmaking.createDrawState mesh program) fun drawState => ?_
  cases drawState with
  | error e => exact traces_abandon hlog hmaking _ e
  | ok drawState =>
  refine Action.traces_bind (hmaking.createTexture image) fun texture => ?_
  cases texture with
  | error e => exact traces_abandon hlog hmaking _ e
  | ok texture => exact Action.traces_pure _

theorem traces_release (hmaking : Device.Making (δ := δ) (Action.Traces R)) (r : ResourceSet) :
    Action.Traces R r.release := by
  refine Action.traces_bind (hmaking.destroy _) fun _ => ?_
  refine Action.traces_bind (hmaking.destroy _) fun _ => ?_
  exact Action.traces_bind (hmaking.destroy _) fun _ => hmaking.destroy _

end Traces

/-- The resources in the order in which they are made. -/
def toList (r : ResourceSet) : List Resource :=
  [.mesh r.mesh, .program r.program, .drawState r.drawState, .texture r.texture]

/-- The requests for the resources, in the same order. -/
def requests (layout : MeshLayout) (image : Image) (r : ResourceSet) : List DeviceRequest :=
  [.createMesh layout, .createProgram, .createDrawState r.mesh r.program, .createTexture image]

/-- The calls that make the resources. -/
def creations (layout : MeshLayout) (image : Image) (r : ResourceSet) : List DeviceCall :=
  List.zipWith DeviceCall.making (r.requests layout image) r.toList

/-- The calls that destroy resources. -/
def destructions (resources : List Resource) : List DeviceCall :=
  resources.map fun resource => .doing (.destroy resource)

/-- The calls when creation number `k` is refused: the `k` resources made before it are destroyed,
the latest first. -/
def abandoned (layout : MeshLayout) (image : Image) (r : ResourceSet) (k : Nat)
    (request : DeviceRequest) (e : DeviceError) : List DeviceCall :=
  (r.creations layout image).take k ++ .refusing request e ::
    destructions (r.toList.take k).reverse

theorem nodup_toList (r : ResourceSet) : r.toList.Nodup := by simp [toList]

/-- What acquiring resources comes to, with the calls that are made. -/
inductive Acquires (layout : MeshLayout) (image : Image) :
    Except Fault (Except DeviceError ResourceSet) → List DeviceCall → Prop
  | made (r : ResourceSet) : Acquires layout image (.ok (.ok r)) (r.creations layout image)
  | refused (r : ResourceSet) (k : Nat) (request : DeviceRequest) (e : DeviceError)
      (h : (r.requests layout image)[k]? = some request) :
      Acquires layout image (.ok (.error e)) (r.abandoned layout image k request e)
  /-- Creation number `k` stops. -/
  | stopped (r : ResourceSet) (k : Nat) (request : DeviceRequest) (fault : Fault)
      (h : (r.requests layout image)[k]? = some request) :
      Acquires layout image (.error fault)
        ((r.creations layout image).take k ++ [⟨request, .error fault⟩])
  /-- A destruction stops. -/
  | stuck (calls : List DeviceCall) (resource : Resource) (fault : Fault)
      (h : ⟨.destroy resource, .error fault⟩ ∈ calls) : Acquires layout image (.error fault) calls

/-- Resources are destroyed one after the other, unless one destruction stops. -/
inductive Destroys (resources : List Resource) : Except Fault Unit → List DeviceCall → Prop
  | done : Destroys resources (.ok ()) (destructions resources)
  | stuck (calls : List DeviceCall) (resource : Resource) (fault : Fault)
      (h : ⟨.destroy resource, .error fault⟩ ∈ calls) : Destroys resources (.error fault) calls

variable {δ : Type} [Device δ]

theorem yields_destroy_bind {next : Unit → Action (Watched δ) Unit} {rest : List Resource}
    (hnext : Watched.Yields (next ()) (Destroys rest)) (resource : Resource) :
    Watched.Yields (Device.destroy resource >>= next) (Destroys (resource :: rest)) := by
  refine Watched.yields_bind (Watched.yields_watch _ _ _) ?_ ?_
  · rintro u _ rfl
    refine hnext.mono fun result calls h => ?_
    cases h with
    | done => exact .done
    | stuck _ other fault h => exact .stuck _ other fault (List.mem_append_right _ h)
  · rintro fault _ rfl
    exact .stuck _ resource fault (List.mem_singleton_self _)

theorem yields_rollBack (resources : List Resource) :
    Watched.Yields (rollBack resources : Action (Watched δ) Unit) (Destroys resources) := by
  induction resources with
  | nil => exact Watched.yields_pure .done
  | cons resource rest ih =>
      rw [rollBack, Action.each_cons, Action.bind_assoc]
      exact Watched.yields_note_bind (yields_destroy_bind ih resource)

theorem yields_destroy (resource : Resource) :
    Watched.Yields (Device.destroy resource : Action (Watched δ) Unit) (Destroys [resource]) := by
  refine (Watched.yields_watch _ _ _).mono ?_
  rintro (fault | u) _ rfl
  · exact .stuck _ resource fault (List.mem_singleton_self _)
  · exact .done

theorem yields_release (r : ResourceSet) :
    Watched.Yields (r.release : Action (Watched δ) Unit) (Destroys r.toList.reverse) := by
  refine yields_destroy_bind ?_ _
  refine yields_destroy_bind ?_ _
  exact yields_destroy_bind (yields_destroy _) _

variable {layout : MeshLayout} {image : Image}

/-- When creation number `k` is refused, the `k` resources made before it are destroyed. -/
theorem yields_abandon (r : ResourceSet) (k : Nat) {request : DeviceRequest} (e : DeviceError)
    (h : (r.requests layout image)[k]? = some request) :
    Watched.Yields (abandon (r.toList.take k).reverse e : Action (Watched δ) _)
      fun result calls => Acquires layout image result
        ((r.creations layout image).take k ++ .refusing request e :: calls) := by
  refine Watched.yields_bind (yields_rollBack _) ?_ ?_
  · intro u calls hcalls
    refine Watched.yields_pure ?_
    cases hcalls
    rw [List.append_nil]
    exact .refused r k request e h
  · intro fault calls hcalls
    obtain ⟨⟩ | ⟨_, resource, _, hmem⟩ := hcalls
    exact .stuck _ resource fault (by simp [hmem])

/-- What acquiring resources comes to on a device that answers as it likes. -/
theorem yields_acquire (layout : MeshLayout) (image : Image) :
    Watched.Yields (acquire layout image : Action (Watched δ) _) (Acquires layout image) := by
  -- Up to the refusal or the stop only the resources made so far count.
  let set (m : MeshId) (p : ProgramId) (d : DrawStateId) : ResourceSet := ⟨m, p, d, default⟩
  refine Watched.yields_bind (Watched.yields_watch _ _ _) ?_ fun fault _ h => h ▸
    .stopped (set default default default) 0 _ fault rfl
  rintro (e | mesh) _ rfl
  · exact yields_abandon (set default default default) 0 e rfl
  refine Watched.yields_bind (Watched.yields_watch _ _ _) ?_ fun fault _ h => h ▸
    .stopped (set mesh default default) 1 _ fault rfl
  rintro (e | program) _ rfl
  · exact yields_abandon (set mesh default default) 1 e rfl
  refine Watched.yields_bind (Watched.yields_watch _ _ _) ?_ fun fault _ h => h ▸
    .stopped (set mesh program default) 2 _ fault rfl
  rintro (e | drawState) _ rfl
  · exact yields_abandon (set mesh program default) 2 e rfl
  refine Watched.yields_bind (Watched.yields_watch _ _ _) ?_ fun fault _ h => h ▸
    .stopped (set mesh program drawState) 3 _ fault rfl
  rintro (e | texture) _ rfl
  · exact yields_abandon (set mesh program drawState) 3 e rfl
  exact Watched.yields_pure (.made ⟨mesh, program, drawState, texture⟩)

end ResourceSet

end Mosaic
