import Mosaic.Proofs.Device.Acquire
import Mosaic.Proofs.Device.Kept

/-!
# What a recorder supplies a canvas with

On a recorder that is not made to fail, acquiring the resources of a canvas either makes all four,
with the next four numbers (`Recorder.equipped`), or stops because no numbers are left
(`ResourceSet.acquire_cases`). No call makes a recorder fail that did not before
(`Recorder.making_reliable`), so over a run without injected failures only numbers can run out.
-/

namespace Mosaic

namespace Recorder

/-! ### One resource -/

/-- What making a resource comes to: it is refused if its kind was made to fail, stops if no number
is left, and is made with the next number otherwise. -/
inductive Creates {α : Type} (r : Recorder) (kind : ResourceKind) (id : Nat → α) (k : Kept) :
    Outcome Recorder (Except DeviceError α) → Prop
  | refused (e : DeviceError) (r' : Recorder) (h : r.failing = some kind) :
      Creates r kind id k ⟨.ok (.error e), r', []⟩
  | exhausted (fault : Fault) (h : r.failing ≠ some kind)
      (hnumber : Bounded.Width.bits32.count ≤ r.lastId + 1) :
      Creates r kind id k ⟨.error fault, r, []⟩
  | made (h : r.failing ≠ some kind) (hnumber : r.lastId + 1 < Bounded.Width.bits32.count) :
      Creates r kind id k ⟨.ok (.ok (id (r.lastId + 1))), r.gain k, []⟩

/-- A creation that goes on from a number. -/
theorem creates_of_allocate {α : Type} {r : Recorder} {kind : ResourceKind} {id : Nat → α}
    {k : Kept} {next : Except DeviceError Nat → Action Recorder (Except DeviceError α)}
    (hrefused : ∀ e, next (.error e) = pure (.error e))
    (hmade : (next (.ok (r.lastId + 1))).run { r with lastId := r.lastId + 1 } =
      ⟨.ok (.ok (id (r.lastId + 1))), r.gain k, []⟩) :
    Creates r kind id k ((allocate kind >>= next).run r) := by
  by_cases hfailing : r.failing = some kind
  · have hrun : ∃ e, (allocate kind).run r = ⟨.ok (.error e), { r with failing := none }, []⟩ := by
      simp only [allocate, Action.run, hfailing, if_true]
      exact ⟨_, rfl⟩
    obtain ⟨e, hrun⟩ := hrun
    rw [Action.run_bind_of_silent hrun, hrefused]
    exact .refused e _ hfailing
  · by_cases hnumber : r.lastId + 1 < Bounded.Width.bits32.count
    · have hrun : (allocate kind).run r =
          ⟨.ok (.ok (r.lastId + 1)), { r with lastId := r.lastId + 1 }, []⟩ := by
        simp only [allocate, Action.run, hfailing, if_false, Bounded.add,
          Bounded.unsigned_of_lt hnumber]
      rw [Action.run_bind_of_silent hrun, hmade]
      exact .made hfailing hnumber
    · have hrun : (allocate kind).run r = ⟨.error (.overflow .add), r, []⟩ := by
        simp only [allocate, Action.run, hfailing, if_false, Bounded.add, Bounded.unsigned, hnumber]
      rw [Action.run_bind_of_error hrun]
      exact .exhausted _ hfailing (Nat.not_lt.1 hnumber)

theorem creates_mesh {layout : MeshLayout} {capacity : Nat}
    (hsize : layout.byteSize = .ok capacity) (r : Recorder) :
    Creates r .mesh MeshId.mk (.mesh ⟨capacity, []⟩) ((createMesh layout).run r) := by
  refine creates_of_allocate (fun _ => rfl) ?_
  dsimp only
  rw [Action.run_ofExcept_bind, hsize]
  rfl

theorem creates_program (r : Recorder) :
    Creates r .program ProgramId.mk .program (createProgram.run r) :=
  creates_of_allocate (fun _ => rfl) rfl

theorem creates_drawState {mesh : MeshId} {program : ProgramId} {r : Recorder}
    (hmesh : r.meshes.contains mesh) (hprogram : r.programs.contains program) :
    Creates r .drawState DrawStateId.mk (.drawState mesh)
      ((createDrawState mesh program).run r) := by
  rw [run_createDrawState hmesh hprogram]
  exact creates_of_allocate (fun _ => rfl) rfl

theorem creates_texture (image : Image) (r : Recorder) :
    Creates r .texture TextureId.mk (.texture (image.width, image.height))
      ((createTexture image).run r) :=
  creates_of_allocate (fun _ => rfl) rfl

/-! ### All four resources of a canvas -/

/-- The resources with the next numbers. -/
def nextSet (r : Recorder) : ResourceSet :=
  ⟨⟨r.lastId + 1⟩, ⟨r.lastId + 2⟩, ⟨r.lastId + 3⟩, ⟨r.lastId + 4⟩⟩

/-- The recorder after the resources of a canvas were made. -/
def equipped (r : Recorder) (capacity : Nat) (image : Image) : Recorder :=
  (((r.gain (.mesh ⟨capacity, []⟩)).gain .program).gain (.drawState ⟨r.lastId + 1⟩)).gain
    (.texture (image.width, image.height))

theorem failing_gain (r : Recorder) (k : Kept) : (r.gain k).failing = r.failing := by
  cases k <;> rfl

/-- What making resources of several kinds one after the other comes to: what was intended, no
resources because one of the kinds was made to fail, or a stop because numbers run out. -/
def Supplies (r : Recorder) (kinds : List ResourceKind)
    (intended outcome : Outcome Recorder (Except DeviceError ResourceSet)) : Prop :=
  ((∀ kind ∈ kinds, r.failing ≠ some kind) ∧ outcome = intended) ∨
    (r.failing ≠ none ∧ ∀ set, outcome.result ≠ .ok (.ok set)) ∨
    (Bounded.Width.bits32.count ≤ r.lastId + kinds.length ∧
      ∃ fault r', outcome = ⟨.error fault, r', []⟩)

theorem supplies_bind {α : Type} {r : Recorder} {kind : ResourceKind} {id : Nat → α} {k : Kept}
    {kinds : List ResourceKind} {intended : Outcome Recorder (Except DeviceError ResourceSet)}
    {action : Action Recorder (Except DeviceError α)}
    {next : Except DeviceError α → Action Recorder (Except DeviceError ResourceSet)}
    (h : Creates r kind id k (action.run r))
    (hrefused : ∀ e r' set, ((next (.error e)).run r').result ≠ .ok (.ok set))
    (hmade : Supplies (r.gain k) kinds intended
      ((next (.ok (id (r.lastId + 1)))).run (r.gain k))) :
    Supplies r (kind :: kinds) intended ((action >>= next).run r) := by
  generalize hrun : action.run r = outcome at h
  cases h with
  | refused e r' hfailing =>
      rw [Action.run_bind_of_silent hrun]
      exact .inr (.inl ⟨by rw [hfailing]; nofun, hrefused e r'⟩)
  | exhausted fault _ hnumber =>
      rw [Action.run_bind_of_error hrun]
      exact .inr (.inr ⟨by rw [List.length_cons]; omega, fault, _, rfl⟩)
  | made hfailing hnumber =>
      rw [Action.run_bind_of_silent hrun]
      rw [Supplies, failing_gain, lastId_gain] at hmade
      refine hmade.imp (fun ⟨hkinds, hrest⟩ => ⟨?_, hrest⟩)
        (Or.imp_right fun ⟨hle, hrest⟩ => ⟨?_, hrest⟩)
      · exact List.forall_mem_cons.2 ⟨hfailing, hkinds⟩
      · rw [List.length_cons]
        omega

end Recorder

namespace ResourceSet

theorem result_abandon_ne {δ : Type} [Device δ] (made : List Resource) (e : DeviceError) (d : δ)
    (set : ResourceSet) : ((abandon made e).run d).result ≠ .ok (.ok set) := by
  rw [abandon, Action.run_bind_pure]
  cases ((rollBack made).run d).result <;> nofun

open Recorder in
/-- Acquiring makes all four resources, unless a kind was made to fail or numbers run out. -/
theorem acquire_cases {layout : MeshLayout} {capacity : Nat}
    (hsize : layout.byteSize = .ok capacity) (image : Image) (r : Recorder) :
    (r.failing = none ∧ (acquire layout image).run r =
        ⟨.ok (.ok r.nextSet), r.equipped capacity image, []⟩) ∨
      (r.failing ≠ none ∧ ∀ set, ((acquire layout image).run r).result ≠ .ok (.ok set)) ∨
      (Bounded.Width.bits32.count ≤ r.lastId + 4 ∧
        ∃ fault r', (acquire layout image).run r = ⟨.error fault, r', []⟩) := by
  have hsupplies : Supplies r [.mesh, .program, .drawState, .texture]
      ⟨.ok (.ok r.nextSet), r.equipped capacity image, []⟩ ((acquire layout image).run r) := by
    refine supplies_bind (creates_mesh hsize r) (fun e => result_abandon_ne [] e) ?_
    refine supplies_bind (creates_program _) (fun e => result_abandon_ne _ e) ?_
    refine supplies_bind (creates_drawState ?_ ?_) (fun e => result_abandon_ne _ e) ?_
    · simp [gain, Table.contains]
    · simp [gain, Table.contains]
    refine supplies_bind (creates_texture image _) (fun e => result_abandon_ne _ e) ?_
    exact .inl ⟨fun _ h => absurd h List.not_mem_nil, rfl⟩
  refine hsupplies.imp_left fun h => ⟨?_, h.2⟩
  cases hfailing : r.failing with
  | none => rfl
  | some kind => exact absurd hfailing (h.1 kind (by cases kind <;> simp))

end ResourceSet

namespace Recorder

/-! ### Recorders that are not made to fail -/

/-- No kind is made to fail that was not before. -/
def StaysReliable (before : Recorder) (_ : List Note) (after : Recorder) : Prop :=
  before.failing = none → after.failing = none

instance : Action.IsTrace StaysReliable where
  refl _ h := h
  trans _ _ _ _ _ h h' := fun hbefore => h' (h hbefore)

theorem reliable_modify {change : Recorder → Recorder}
    (h : ∀ r, (change r).failing = r.failing) :
    Action.Traces StaysReliable (Action.modify change) :=
  Action.traces_modify fun r hr => (h r).trans hr

theorem reliable_log (level : LogLevel) (text : String) :
    Action.Traces StaysReliable (Action.log level text) := fun _ h => h

theorem reliable_allocate (kind : ResourceKind) :
    Action.Traces StaysReliable (allocate kind) := by
  intro r hr
  simp only [allocate, Action.run, hr, reduceCtorEq, if_false]
  cases Bounded.add .bits32 r.lastId 1 with
  | error fault => exact hr
  | ok id => rfl

theorem reliable_destroy (ρ : Resource) : Action.Traces StaysReliable (destroy ρ) := by
  refine Action.traces_bind Action.traces_get fun r => ?_
  split
  · exact reliable_modify fun r => by cases ρ <;> rfl
  · exact reliable_log _ _

/-- Making and destroying resources leaves a recorder as reliable as it was. -/
theorem making_reliable : Device.Making (δ := Recorder) (Action.Traces StaysReliable) where
  createMesh layout := by
    refine Action.traces_bind (reliable_allocate .mesh) fun made => ?_
    cases made with
    | error e => exact Action.traces_pure _
    | ok id =>
        refine Action.traces_bind (Action.traces_ofExcept _) fun capacity => ?_
        exact Action.traces_bind (reliable_modify fun _ => rfl) fun _ => Action.traces_pure _
  createProgram := by
    refine Action.traces_bind (reliable_allocate .program) fun made => ?_
    cases made with
    | error e => exact Action.traces_pure _
    | ok id => exact Action.traces_bind (reliable_modify fun _ => rfl) fun _ => Action.traces_pure _
  createDrawState mesh program := by
    refine Action.traces_bind Action.traces_get fun r => ?_
    split
    · exact Action.traces_pure _
    split
    · exact Action.traces_pure _
    refine Action.traces_bind (reliable_allocate .drawState) fun made => ?_
    cases made with
    | error e => exact Action.traces_pure _
    | ok id => exact Action.traces_bind (reliable_modify fun _ => rfl) fun _ => Action.traces_pure _
  createTexture image := by
    refine Action.traces_bind (reliable_allocate .texture) fun made => ?_
    cases made with
    | error e => exact Action.traces_pure _
    | ok id => exact Action.traces_bind (reliable_modify fun _ => rfl) fun _ => Action.traces_pure _
  destroy := reliable_destroy

theorem reliable_upload (mesh : MeshId) (bytes : List UInt8) :
    Action.Traces StaysReliable (upload mesh bytes) := by
  refine Action.traces_bind Action.traces_get fun r => ?_
  cases r.meshes.get? mesh with
  | none => exact reliable_log _ _
  | some stored =>
      dsimp only
      split
      · exact reliable_log _ _
      · exact reliable_modify fun _ => rfl

theorem reliable_draw (call : DrawCall) : Action.Traces StaysReliable (draw call) := by
  refine Action.traces_bind Action.traces_get fun r => ?_
  cases r.drawStates.get? call.drawState with
  | none => exact reliable_log _ _
  | some mesh =>
      dsimp only
      split
      · exact reliable_modify fun _ => rfl
      · exact reliable_log _ _

/-! ### Releasing -/

theorem result_destroy (ρ : Resource) (r : Recorder) : ((destroy ρ).run r).result = .ok () := by
  rw [destroy, Action.run_get_bind]
  split <;> rfl

theorem result_destroy_bind {next : Action Recorder Unit}
    (h : ∀ r, (next.run r).result = .ok ()) (ρ : Resource) (r : Recorder) :
    ((Device.destroy ρ >>= fun _ => next).run r).result = .ok () := by
  have hresult : ((Device.destroy ρ : Action Recorder Unit).run r).result = .ok () :=
    result_destroy ρ r
  rw [Action.run_bind]
  generalize (Device.destroy ρ : Action Recorder Unit).run r = outcome at hresult ⊢
  obtain ⟨result, r', notes⟩ := outcome
  cases hresult
  exact h r'

/-- A recorder gives back whatever it is asked to. -/
theorem result_release (set : ResourceSet) (r : Recorder) :
    (set.release.run r).result = .ok () :=
  result_destroy_bind (result_destroy_bind (result_destroy_bind (result_destroy _) _) _) _ r

/-! ### Uploading and drawing -/

/-- A recorder takes vertices, or warns, whatever it is handed. -/
theorem result_upload (mesh : MeshId) (bytes : List UInt8) (r : Recorder) :
    ((upload mesh bytes).run r).result = .ok () := by
  rw [upload, Action.run_get_bind]
  cases r.meshes.get? mesh with
  | none => rfl
  | some stored =>
      dsimp only
      split <;> rfl

theorem result_draw (call : DrawCall) (r : Recorder) : ((draw call).run r).result = .ok () := by
  rw [draw, Action.run_get_bind]
  cases r.drawStates.get? call.drawState with
  | none => rfl
  | some mesh =>
      dsimp only
      split <;> rfl

end Recorder

end Mosaic
