import Mosaic.Proofs.Gpu.Processor
import Mosaic.Proofs.Gpu.Twin

/-!
# Making resources on the queueing device

To make and destroy resources leaves the queue of draws alone and tells the processor of no more
than textures (`GpuDevice.making_keeps`). A texture is only made of an image that is not larger than
the processor allows, so where setting a canvas up makes all that it asks for, its sheet fits
(`Stage.fits_of_creates`).
-/

namespace Mosaic

namespace GpuDevice

variable {device device' : GpuDevice}

/-- The device was asked to make or destroy resources. -/
def Keeps (before : GpuDevice) (notes : List Note) (after : GpuDevice) : Prop :=
  after.limits = before.limits ∧ after.pending = before.pending ∧
    ∀ n ∈ notes, ∀ command, n.gpuCommand? = some command →
      ∃ width height rowBytes bytes, command = .writeTexture width height rowBytes bytes

instance : Action.IsTrace Keeps where
  refl _ := ⟨rfl, rfl, fun _ h => absurd h List.not_mem_nil⟩
  trans _ _ _ _ _ h h' := ⟨h'.1.trans h.1, h'.2.1.trans h.2.1, fun n hn =>
    (List.mem_append.1 hn).elim (h.2.2 n) (h'.2.2 n)⟩

theorem keeps_log (device : GpuDevice) (level : LogLevel) (text : String) :
    Keeps device [.log level text] device := by
  refine ⟨rfl, rfl, fun n hn command hcommand => ?_⟩
  rw [List.mem_singleton.1 hn] at hcommand
  cases hcommand

section Traces

variable {R : GpuDevice → List Note → GpuDevice → Prop} [Action.IsTrace R]

/-- A creation that goes on from a number. -/
theorem traces_numbered {α : Type} (hlog : ∀ d level text, R d [.log level text] d)
    (hmodify : ∀ d d' : GpuDevice, d'.limits = d.limits → d'.pending = d.pending → R d [] d')
    {level : Nat → LogLevel} {text : Nat → String} {change : Nat → GpuDevice → GpuDevice}
    {answer : Nat → α}
    (h : ∀ id d, (change id d).limits = d.limits ∧ (change id d).pending = d.pending) :
    Action.Traces R (do
      let id ← allocate
      Action.log (level id) (text id)
      Action.modify (change id)
      return answer id) := by
  have hallocate : Action.Traces R allocate := by
    refine Action.traces_bind Action.traces_get fun device => ?_
    refine Action.traces_bind (Action.traces_ofExcept _) fun id => ?_
    exact Action.traces_bind (Action.traces_modify fun d => hmodify d _ rfl rfl) fun _ =>
      Action.traces_pure _
  refine Action.traces_bind hallocate fun id => ?_
  refine Action.traces_bind (Action.traces_note fun d => hlog d _ _) fun _ => ?_
  exact Action.traces_bind (Action.traces_modify fun d => hmodify d _ (h id d).1 (h id d).2)
    fun _ => Action.traces_pure _

/-- To make and destroy resources is to fill textures, to add lines to the log and to change neither
the limits nor the queue. -/
theorem making_traces (hlog : ∀ d level text, R d [.log level text] d)
    (htexture : ∀ d width height rowBytes bytes,
      R d [.gpu (.writeTexture width height rowBytes bytes)] d)
    (hmodify : ∀ d d' : GpuDevice, d'.limits = d.limits → d'.pending = d.pending → R d [] d') :
    Device.Making (δ := GpuDevice) (Action.Traces R) where
  createMesh layout := by
    refine Action.traces_bind (Action.traces_ofExcept _) fun size => ?_
    refine Action.traces_bind Action.traces_get fun device => ?_
    dsimp only
    split
    · exact Action.traces_pure _
    · exact traces_numbered hlog hmodify fun _ _ => ⟨rfl, rfl⟩
  createProgram := traces_numbered hlog hmodify fun _ _ => ⟨rfl, rfl⟩
  createDrawState mesh program := by
    refine Action.traces_bind Action.traces_get fun device => ?_
    dsimp only
    split
    · exact Action.traces_pure _
    split
    · exact Action.traces_pure _
    · exact traces_numbered hlog hmodify fun _ _ => ⟨rfl, rfl⟩
  createTexture image := by
    refine Action.traces_bind Action.traces_get fun device => ?_
    dsimp only
    split
    · exact Action.traces_pure _
    · exact Action.traces_bind (Action.traces_note fun d => htexture d _ _ _ _) fun _ =>
        traces_numbered hlog hmodify fun _ _ => ⟨rfl, rfl⟩
  destroy ρ := by
    refine Action.traces_bind Action.traces_get fun device => ?_
    dsimp only
    split
    · refine Action.traces_bind (Action.traces_modify fun d => ?_) fun _ =>
        Action.traces_note fun d => hlog d _ _
      exact hmodify d _ (by cases ρ <;> rfl) (by cases ρ <;> rfl)
    · exact Action.traces_note fun d => hlog d _ _

/-- To write bytes is to hand them over or to add a line to the log. -/
theorem traces_upload (hlog : ∀ d level text, R d [.log level text] d)
    (hmesh : ∀ d mesh bytes, R d [.gpu (.writeMesh mesh bytes)] d) (mesh : MeshId)
    (bytes : List UInt8) : Action.Traces R (upload mesh bytes) := by
  refine Action.traces_bind Action.traces_get fun device => ?_
  cases device.meshes.get? mesh with
  | none => exact Action.traces_note fun d => hlog d _ _
  | some capacity =>
      dsimp only
      split
      · exact Action.traces_pure _
      split
      · exact Action.traces_note fun d => hlog d _ _
      · exact Action.traces_note fun d => hmesh d _ _

end Traces

theorem making_keeps : Device.Making (δ := GpuDevice) (Action.Traces Keeps) := by
  refine making_traces keeps_log (fun d width height rowBytes bytes => ?_) fun d d' h h' => ?_
  · refine ⟨rfl, rfl, fun n hn command hcommand => ?_⟩
    rw [List.mem_singleton.1 hn] at hcommand
    cases hcommand
    exact ⟨_, _, _, _, rfl⟩
  · exact ⟨h, h', fun _ hn => absurd hn List.not_mem_nil⟩

/-- What holds of all that a device notes when it is asked something: of lines of the log, of
textures and of bytes for a mesh. -/
structure Admits (P : Note → Prop) : Prop where
  log : ∀ level text, P (.log level text)
  texture : ∀ width height rowBytes bytes, P (.gpu (.writeTexture width height rowBytes bytes))
  mesh : ∀ mesh bytes, P (.gpu (.writeMesh mesh bytes))

section Notes

variable {P : Note → Prop}

theorem making_notesOnly (h : Admits P) :
    Device.Making (δ := GpuDevice) (Action.Traces (Action.NotesOnly P)) :=
  making_traces (fun d level text => Action.notesOnly_singleton (h.log level text) d d)
    (fun d _ _ _ _ => Action.notesOnly_singleton (h.texture _ _ _ _) d d)
    fun _ _ _ _ _ hn => absurd hn List.not_mem_nil

theorem notesOnly_upload (h : Admits P) (mesh : MeshId) (bytes : List UInt8) :
    Action.Traces (Action.NotesOnly P) (upload mesh bytes) :=
  traces_upload (fun d level text => Action.notesOnly_singleton (h.log level text) d d)
    (fun d mesh bytes => Action.notesOnly_singleton (h.mesh mesh bytes) d d) mesh bytes

theorem notesOnly_draw (call : DrawCall) : Action.Traces (Action.NotesOnly P) (draw call) :=
  fun _ _ hn => absurd hn List.not_mem_nil

theorem notesOnly_run (h : Admits P) (request : DeviceRequest) :
    Action.Traces (Action.NotesOnly P) (request.run (δ := GpuDevice)) := by
  have hmaking := making_notesOnly h
  cases request with
  | createMesh layout => exact Action.traces_map (hmaking.createMesh layout) _
  | createProgram => exact Action.traces_map hmaking.createProgram _
  | createDrawState mesh program =>
      exact Action.traces_map (hmaking.createDrawState mesh program) _
  | createTexture image => exact Action.traces_map (hmaking.createTexture image) _
  | destroy ρ => exact Action.traces_map (hmaking.destroy ρ) _
  | upload mesh bytes => exact Action.traces_map (notesOnly_upload h mesh bytes) _
  | draw call => exact Action.traces_map (notesOnly_draw call) _

end Notes

theorem limits_of_isCreation {request : DeviceRequest} (h : request.isCreation) :
    (request.run.run device).state.limits = device.limits := by
  cases request with
  | createMesh layout => exact (Action.traces_map (making_keeps.createMesh layout) _ device).1
  | createProgram => exact (Action.traces_map making_keeps.createProgram _ device).1
  | createDrawState mesh program =>
      exact (Action.traces_map (making_keeps.createDrawState mesh program) _ device).1
  | createTexture image => exact (Action.traces_map (making_keeps.createTexture image) _ device).1
  | destroy | upload | draw => cases h

theorem fits_of_createTexture {image : Image} {answer : Option Resource}
    (h : ((DeviceRequest.createTexture image).run.run device).result = .ok (.ok answer)) :
    image.Fits device.limits := by
  by_contra hfits
  rw [Image.Fits, not_and_or, Nat.not_le, Nat.not_le] at hfits
  rw [DeviceRequest.run, Action.run_map] at h
  change _ <$> ((createTexture image).run device).result = _ at h
  rw [createTexture, Action.run_get_bind] at h
  dsimp only at h
  rw [if_pos hfits] at h
  cases h

/-- Where all four resources were made, the image fits. -/
theorem fits_of_creations {set : ResourceSet} {layout : MeshLayout} {image : Image}
    (h : Device.Serves device (set.creations layout image) device') :
    image.Fits device.limits := by
  obtain ⟨-, -, -, htexture, -⟩ := h
  have hfits := fits_of_createTexture htexture
  rw [limits_of_isCreation rfl, limits_of_isCreation rfl, limits_of_isCreation rfl] at hfits
  exact hfits

/-- A destruction does not stop. -/
theorem result_destroy (ρ : Resource) (device : GpuDevice) :
    ((DeviceRequest.destroy ρ).run.run device).result = .ok (.ok none) := by
  rw [DeviceRequest.run, Action.run_map]
  change _ <$> ((destroy ρ).run device).result = _
  rw [destroy, Action.run_get_bind]
  dsimp only
  cases device.alive ρ <;> rfl

theorem not_stuck {calls : List DeviceCall} (h : Device.Serves device calls device')
    {ρ : Resource} {fault : Fault} : ⟨.destroy ρ, .error fault⟩ ∉ calls := by
  intro hcall
  obtain ⟨first, second, rfl⟩ := List.append_of_mem hcall
  obtain ⟨d, -, hanswer, -⟩ := h.split
  rw [result_destroy] at hanswer
  cases hanswer

end GpuDevice

namespace Stage

/-- Where the creations that setting up asks for succeed, the sheet fits or the configuration is
refused. -/
theorem fits_of_creates {stage : Stage GpuDevice} (hunset : stage.canvas.active = none) {g : Config}
    (hmade : ∀ call ∈ stage.calls (.command (.setup g)), call.request.isCreation →
      call.made.isSome) :
    stage.canvas.sheet.image.Fits stage.device.limits ∨ ∃ e, g.validate = .error e := by
  have hserves := serves_calls (.command (.setup g)) stage
  have hsetsUp := setsUp stage g
  generalize stage.calls (.command (.setup g)) = calls at *
  generalize ((setup g).run stage).result = result at hsetsUp
  generalize ((setup g).run stage).state.canvas = canvas at hsetsUp
  cases hsetsUp with
  | active a ha =>
      rw [hunset] at ha
      cases ha
  | invalid e _ he => exact .inr ⟨e, he⟩
  | made set _ _ _ hcalls =>
      cases hcalls
      exact .inl (GpuDevice.fits_of_creations hserves)
  | refused e _ _ _ hcalls =>
      obtain _ | ⟨set, k, request, _, hrequest⟩ := hcalls
      have hcreation := set.isCreation_of_mem_requests (List.mem_of_getElem? hrequest)
      cases hmade (.refusing request e) (List.mem_append_right _ List.mem_cons_self) hcreation
  | stopped fault _ _ _ hcalls =>
      cases hcalls with
      | stopped set k request _ hrequest =>
          have hcreation := set.isCreation_of_mem_requests (List.mem_of_getElem? hrequest)
          cases hmade _ (List.mem_append_right _ (List.mem_singleton_self _)) hcreation
      | stuck _ ρ _ hstuck => exact absurd hstuck (GpuDevice.not_stuck hserves)

end Stage

end Mosaic
