import Mosaic.Device.Recorder
import Mosaic.Proofs.Device.Request
import Mosaic.Proofs.Table

/-!
# What a recorder keeps

`Recorder.kept` reads the four tables of a recorder as one: what is kept of a resource, if it is
alive. `Recorder.Does` lists what a call can come to. A resource that a call makes has the next
number, and the call leaves all others as they are unless it is made to destroy or refill one of
them.
-/

namespace Mosaic

/-- The number that a resource was given. -/
def Resource.number : Resource → Nat
  | .mesh id => id.id
  | .program id => id.id
  | .drawState id => id.id
  | .texture id => id.id

/-- What a recorder keeps of a resource. -/
inductive Kept where
  | mesh (mesh : RecordedMesh)
  | program
  | drawState (mesh : MeshId)
  | texture (size : Nat × Nat)

/-- The resource of which it is kept, if that has the given number. -/
def Kept.resource (number : Nat) : Kept → Resource
  | .mesh _ => .mesh ⟨number⟩
  | .program => .program ⟨number⟩
  | .drawState _ => .drawState ⟨number⟩
  | .texture _ => .texture ⟨number⟩

@[simp] theorem Kept.number_resource (number : Nat) (k : Kept) :
    (k.resource number).number = number := by cases k <;> rfl

/-- What is kept apart from the vertices of a mesh. -/
def Kept.emptied : Kept → Kept
  | .mesh stored => .mesh ⟨stored.capacity, []⟩
  | k => k

/-- What is kept of a resource that the request made. -/
def DeviceRequest.Makes : DeviceRequest → Kept → Prop
  | .createMesh layout, .mesh stored =>
    layout.byteSize = .ok stored.capacity ∧ stored.vertices = []
  | .createProgram, .program => True
  | .createDrawState mesh _, .drawState bound => bound = mesh
  | .createTexture image, .texture size => size = (image.width, image.height)
  | _, _ => False

namespace Recorder

/-! ### Four tables as one -/

/-- What is kept of a resource. -/
def kept (r : Recorder) : Resource → Option Kept
  | .mesh id => (r.meshes.get? id).map .mesh
  | .program id => (r.programs.get? id).map fun _ => .program
  | .drawState id => (r.drawStates.get? id).map .drawState
  | .texture id => (r.textures.get? id).map .texture

theorem isSome_kept (r : Recorder) (ρ : Resource) : (r.kept ρ).isSome = r.alive ρ := by
  cases ρ <;> simp [kept, alive, Table.contains]

theorem kept_eq_none {r : Recorder} {ρ : Resource} : r.kept ρ = none ↔ r.alive ρ = false := by
  rw [← isSome_kept, Option.isSome_eq_false_iff, Option.isNone_iff_eq_none]

/-- What is kept of a resource apart from the vertices of a mesh. -/
def form (r : Recorder) (ρ : Resource) : Option Kept := (r.kept ρ).map Kept.emptied

theorem isSome_form (r : Recorder) (ρ : Resource) : (r.form ρ).isSome = r.alive ρ := by
  rw [form, Option.isSome_map, isSome_kept]

/-- The resources that are alive. -/
def resources (r : Recorder) : List Resource :=
  r.meshes.keys.map .mesh ++ r.programs.keys.map .program ++ r.drawStates.keys.map .drawState ++
    r.textures.keys.map .texture

theorem length_resources (r : Recorder) : r.resources.length = r.live := by
  simp [resources, live, Table.length_keys, Nat.add_assoc]

theorem mem_resources_iff {r : Recorder} {ρ : Resource} : ρ ∈ r.resources ↔ r.alive ρ := by
  cases ρ <;> simp [resources, alive, Table.contains, Table.mem_keys_iff]

/-- Each table has one pair for each key. -/
structure Tidy (r : Recorder) : Prop where
  meshes : r.meshes.keys.Nodup
  programs : r.programs.keys.Nodup
  drawStates : r.drawStates.keys.Nodup
  textures : r.textures.keys.Nodup

theorem Tidy.nodup {r : Recorder} (h : r.Tidy) : r.resources.Nodup := by
  have hmesh := h.meshes.map (f := Resource.mesh) fun _ _ e => Resource.mesh.inj e
  have hprogram := h.programs.map (f := Resource.program) fun _ _ e => Resource.program.inj e
  have hdrawState := h.drawStates.map (f := Resource.drawState) fun _ _ e =>
    Resource.drawState.inj e
  have htexture := h.textures.map (f := Resource.texture) fun _ _ e => Resource.texture.inj e
  simp only [resources, List.nodup_append]
  grind

/-- The recorder with one more resource, of which `k` is kept. -/
def gain (r : Recorder) : Kept → Recorder
  | .mesh stored =>
    { r with lastId := r.lastId + 1, meshes := r.meshes.insert ⟨r.lastId + 1⟩ stored }
  | .program =>
    { r with lastId := r.lastId + 1, programs := r.programs.insert ⟨r.lastId + 1⟩ () }
  | .drawState mesh =>
    { r with lastId := r.lastId + 1, drawStates := r.drawStates.insert ⟨r.lastId + 1⟩ mesh }
  | .texture size =>
    { r with lastId := r.lastId + 1, textures := r.textures.insert ⟨r.lastId + 1⟩ size }

theorem kept_gain (r : Recorder) (k : Kept) (ρ : Resource) :
    (r.gain k).kept ρ = if ρ = k.resource (r.lastId + 1) then some k else r.kept ρ := by
  cases k <;> cases ρ <;> simp only [gain, kept, Kept.resource, Table.get?_insert] <;>
    grind

theorem kept_remove (r : Recorder) (ρ σ : Resource) :
    (r.remove ρ).kept σ = if σ = ρ then none else r.kept σ := by
  cases ρ <;> cases σ <;> simp only [remove, kept, Table.get?_erase] <;> grind

theorem tidy_gain {r : Recorder} (h : r.Tidy) (k : Kept) : (r.gain k).Tidy := by
  cases k with
  | mesh stored => exact { h with meshes := Table.nodup_keys_insert h.meshes _ _ }
  | program => exact { h with programs := Table.nodup_keys_insert h.programs _ _ }
  | drawState mesh => exact { h with drawStates := Table.nodup_keys_insert h.drawStates _ _ }
  | texture size => exact { h with textures := Table.nodup_keys_insert h.textures _ _ }

theorem tidy_remove {r : Recorder} (h : r.Tidy) (ρ : Resource) : (r.remove ρ).Tidy := by
  cases ρ with
  | mesh id => exact { h with meshes := Table.nodup_keys_erase h.meshes _ }
  | program id => exact { h with programs := Table.nodup_keys_erase h.programs _ }
  | drawState id => exact { h with drawStates := Table.nodup_keys_erase h.drawStates _ }
  | texture id => exact { h with textures := Table.nodup_keys_erase h.textures _ }

/-! ### What a call comes to -/

/-- What a call to a recorder comes to, its answer included. -/
inductive Does (r : Recorder) : DeviceCall → Recorder → Prop
  | made (request : DeviceRequest) (k : Kept) (h : request.Makes k) :
      Does r (.making request (k.resource (r.lastId + 1))) (r.gain k)
  | refused (request : DeviceRequest) (e : DeviceError) (failing : Option ResourceKind)
      (h : request.isCreation) : Does r (.refusing request e) { r with failing := failing }
  /-- No number is left. -/
  | exhausted (request : DeviceRequest) (fault : Fault) (h : request.isCreation)
      (hnumber : Bounded.Width.bits32.count ≤ r.lastId + 1) : Does r ⟨request, .error fault⟩ r
  /-- The size of a mesh is too large to be computed, which takes a number all the same. -/
  | oversized (layout : MeshLayout) (fault : Fault) (h : layout.byteSize = .error fault) :
      Does r ⟨.createMesh layout, .error fault⟩ { r with lastId := r.lastId + 1 }
  | destroyed (ρ : Resource) : Does r (.doing (.destroy ρ)) (r.remove ρ)
  | uploaded (mesh : MeshId) (bytes : List UInt8) (stored : RecordedMesh)
      (h : r.meshes.get? mesh = some stored) (hle : bytes.length ≤ stored.capacity) :
      Does r (.doing (.upload mesh bytes))
        { r with meshes := r.meshes.insert mesh ⟨stored.capacity, Vertex.decode bytes⟩ }
  | drawn (call : DrawCall) (record : DrawRecord) :
      Does r (.doing (.draw call)) { r with draws := r.draws ++ [record] }
  /-- A warning at most. -/
  | ignored (request : DeviceRequest) (h : request.isCreation = false)
      (hdead : ∀ ρ, request = .destroy ρ → r.alive ρ = false) : Does r (.doing request) r

theorem run_allocate_cases (kind : ResourceKind) (r : Recorder) :
    (∃ e failing, (allocate kind).run r = ⟨.ok (.error e), { r with failing := failing }, []⟩) ∨
      (∃ fault, Bounded.Width.bits32.count ≤ r.lastId + 1 ∧
        (allocate kind).run r = ⟨.error fault, r, []⟩) ∨
      (allocate kind).run r =
        ⟨.ok (.ok (r.lastId + 1)), { r with lastId := r.lastId + 1 }, []⟩ := by
  simp only [allocate, Action.run, Bounded.add, Bounded.unsigned]
  by_cases hfailing : r.failing = some kind
  · left
    simp [hfailing]
  · right
    by_cases hroom : r.lastId + 1 < Bounded.Width.bits32.count
    · right
      simp [hfailing, hroom]
    · left
      simp [hfailing, hroom, Nat.le_of_not_lt hroom]

/-- A creation that goes on from a number. -/
theorem does_allocate {α : Type} {request : DeviceRequest} {kind : ResourceKind}
    {action : Action Recorder (Except DeviceError α)} {answer : α → Resource}
    {next : Except DeviceError Nat → Action Recorder (Except DeviceError α)} {r : Recorder}
    (hcreation : request.isCreation)
    (hrequest : request.run = (Except.map fun a => some (answer a)) <$> action)
    (hrun : action.run r = (allocate kind >>= next).run r)
    (hrefused : ∀ e, next (.error e) = pure (.error e))
    (hmade : Does r ⟨request, (Except.map fun a => some (answer a)) <$>
        ((next (.ok (r.lastId + 1))).run { r with lastId := r.lastId + 1 }).result⟩
      ((next (.ok (r.lastId + 1))).run { r with lastId := r.lastId + 1 }).state) :
    Does r ⟨request, (request.run.run r).result⟩ (request.run.run r).state := by
  rw [hrequest, Action.run_map, hrun]
  obtain ⟨e, failing, hallocate⟩ | ⟨fault, hnumber, hallocate⟩ | hallocate :=
    run_allocate_cases kind r
  · rw [Action.run_bind_of_silent hallocate, hrefused]
    exact .refused request e failing hcreation
  · rw [Action.run_bind_of_error hallocate]
    exact .exhausted request fault hcreation hnumber
  · rw [Action.run_bind_of_silent hallocate]
    exact hmade

theorem does_createMesh (layout : MeshLayout) (r : Recorder) :
    Does r ⟨.createMesh layout, ((DeviceRequest.createMesh layout).run.run r).result⟩
      ((DeviceRequest.createMesh layout).run.run r).state := by
  refine does_allocate rfl rfl rfl (fun _ => rfl) ?_
  dsimp only
  rw [Action.run_ofExcept_bind]
  cases hsize : layout.byteSize with
  | error fault => exact .oversized layout fault hsize
  | ok capacity => exact .made _ (.mesh ⟨capacity, []⟩) ⟨hsize, rfl⟩

theorem does_createProgram (r : Recorder) :
    Does r ⟨.createProgram, (DeviceRequest.createProgram.run.run r).result⟩
      (DeviceRequest.createProgram.run.run r).state :=
  does_allocate rfl rfl rfl (fun _ => rfl) (.made .createProgram .program trivial)

theorem run_createDrawState {mesh : MeshId} {program : ProgramId} {r : Recorder}
    (hmesh : r.meshes.contains mesh) (hprogram : r.programs.contains program) :
    (createDrawState mesh program).run r = Action.run (do
      match ← allocate .drawState with
      | .error e => return .error e
      | .ok id =>
        Action.modify fun r => { r with drawStates := r.drawStates.insert ⟨id⟩ mesh }
        return .ok ⟨id⟩) r := by
  rw [createDrawState, Action.run_get_bind, hmesh, hprogram]
  rfl

theorem run_createDrawState_of_no_mesh {mesh : MeshId} {r : Recorder}
    (h : r.meshes.contains mesh = false) (program : ProgramId) :
    (createDrawState mesh program).run r =
      ⟨.ok (.error (.unknownHandle "mesh" mesh.id)), r, []⟩ := by
  rw [createDrawState, Action.run_get_bind, h]
  rfl

theorem run_createDrawState_of_no_program {mesh : MeshId} {program : ProgramId} {r : Recorder}
    (hmesh : r.meshes.contains mesh) (h : r.programs.contains program = false) :
    (createDrawState mesh program).run r =
      ⟨.ok (.error (.unknownHandle "program" program.id)), r, []⟩ := by
  rw [createDrawState, Action.run_get_bind, hmesh, h]
  rfl

theorem does_createDrawState (mesh : MeshId) (program : ProgramId) (r : Recorder) :
    Does r ⟨.createDrawState mesh program,
        ((DeviceRequest.createDrawState mesh program).run.run r).result⟩
      ((DeviceRequest.createDrawState mesh program).run.run r).state := by
  cases hmesh : r.meshes.contains mesh with
  | false =>
      rw [DeviceRequest.run, Action.run_map]
      change Does r ⟨_, _ <$> ((createDrawState mesh program).run r).result⟩
        ((createDrawState mesh program).run r).state
      rw [run_createDrawState_of_no_mesh hmesh]
      exact .refused _ _ r.failing rfl
  | true =>
  cases hprogram : r.programs.contains program with
  | false =>
      rw [DeviceRequest.run, Action.run_map]
      change Does r ⟨_, _ <$> ((createDrawState mesh program).run r).result⟩
        ((createDrawState mesh program).run r).state
      rw [run_createDrawState_of_no_program hmesh hprogram]
      exact .refused _ _ r.failing rfl
  | true =>
      exact does_allocate rfl rfl (run_createDrawState hmesh hprogram) (fun _ => rfl)
        (.made (.createDrawState mesh program) (.drawState mesh) rfl)

theorem does_createTexture (image : Image) (r : Recorder) :
    Does r ⟨.createTexture image, ((DeviceRequest.createTexture image).run.run r).result⟩
      ((DeviceRequest.createTexture image).run.run r).state :=
  does_allocate rfl rfl rfl (fun _ => rfl)
    (.made (.createTexture image) (.texture (image.width, image.height)) rfl)

theorem does_destroy (ρ : Resource) (r : Recorder) :
    Does r ⟨.destroy ρ, ((DeviceRequest.destroy ρ).run.run r).result⟩
      ((DeviceRequest.destroy ρ).run.run r).state := by
  change Does r ⟨_, (((fun _ => _) <$> destroy ρ).run r).result⟩
    (((fun _ => _) <$> destroy ρ).run r).state
  rw [Action.run_map, destroy, Action.run_get_bind]
  cases halive : r.alive ρ with
  | true => exact .destroyed ρ
  | false =>
      refine .ignored _ rfl fun σ h => ?_
      cases h
      exact halive

theorem does_upload (mesh : MeshId) (bytes : List UInt8) (r : Recorder) :
    Does r ⟨.upload mesh bytes, ((DeviceRequest.upload mesh bytes).run.run r).result⟩
      ((DeviceRequest.upload mesh bytes).run.run r).state := by
  change Does r ⟨_, (((fun _ => _) <$> upload mesh bytes).run r).result⟩
    (((fun _ => _) <$> upload mesh bytes).run r).state
  rw [Action.run_map, upload, Action.run_get_bind]
  cases hmesh : r.meshes.get? mesh with
  | none => exact .ignored _ rfl nofun
  | some stored =>
      by_cases hle : stored.capacity < bytes.length
      · simp only [hle, if_true]
        exact .ignored _ rfl nofun
      · simp only [hle, if_false]
        exact .uploaded mesh bytes stored hmesh (Nat.le_of_not_lt hle)

theorem does_draw (call : DrawCall) (r : Recorder) :
    Does r ⟨.draw call, ((DeviceRequest.draw call).run.run r).result⟩
      ((DeviceRequest.draw call).run.run r).state := by
  change Does r ⟨_, (((fun _ => _) <$> draw call).run r).result⟩
    (((fun _ => _) <$> draw call).run r).state
  rw [Action.run_map, draw, Action.run_get_bind]
  cases r.drawStates.get? call.drawState with
  | none => exact .ignored _ rfl nofun
  | some mesh =>
      cases r.textures.contains call.texture with
      | true => exact .drawn call _
      | false => exact .ignored _ rfl nofun

theorem does_run (request : DeviceRequest) (r : Recorder) :
    Does r ⟨request, (request.run.run r).result⟩ (request.run.run r).state := by
  cases request with
  | createMesh layout => exact does_createMesh layout r
  | createProgram => exact does_createProgram r
  | createDrawState mesh program => exact does_createDrawState mesh program r
  | createTexture image => exact does_createTexture image r
  | destroy ρ => exact does_destroy ρ r
  | upload mesh bytes => exact does_upload mesh bytes r
  | draw call => exact does_draw call r

/-! ### What follows from a call -/

variable {r r' : Recorder} {call : DeviceCall} {ρ : Resource}

theorem Does.tidy (h : Does r call r') (htidy : r.Tidy) : r'.Tidy := by
  cases h with
  | made request k => exact tidy_gain htidy k
  | refused | exhausted | oversized | drawn | ignored => exact { htidy with }
  | destroyed ρ => exact tidy_remove htidy ρ
  | uploaded => exact { htidy with meshes := Table.nodup_keys_insert htidy.meshes _ _ }

theorem lastId_gain (r : Recorder) (k : Kept) : (r.gain k).lastId = r.lastId + 1 := by
  cases k <;> rfl

theorem lastId_remove (r : Recorder) (ρ : Resource) : (r.remove ρ).lastId = r.lastId := by
  cases ρ <;> rfl

theorem Does.lastId_le (h : Does r call r') : r.lastId ≤ r'.lastId := by
  cases h <;> simp [lastId_gain, lastId_remove]

theorem Does.number_made (h : Does r call r') (hmade : call.made = some ρ) :
    r.lastId < ρ.number ∧ ρ.number ≤ r'.lastId := by
  cases h with
  | made request k =>
      cases hmade
      simp [lastId_gain]
  | refused | exhausted | oversized | destroyed | uploaded | drawn | ignored => cases hmade

/-- Only a creation that is not refused takes a number. -/
theorem Does.lastId_le_add (h : Does r call r') :
    r'.lastId ≤ r.lastId + if call.spends then 1 else 0 := by
  cases h with
  | made request k hmakes =>
      have hspends : (DeviceCall.making request (k.resource (r.lastId + 1))).spends := by
        cases request <;> first | rfl | cases hmakes
      rw [lastId_gain, hspends]
      exact Nat.le_refl _
  | oversized layout fault => exact Nat.le_refl _
  | refused | exhausted | uploaded | drawn | ignored => exact Nat.le_add_right _ _
  | destroyed ρ =>
      rw [lastId_remove]
      exact Nat.le_add_right _ _

/-- A call stops where no number is left for a resource, or at a mesh that is too large. -/
theorem Does.stop (h : Does r call r') {fault : Fault} (hfault : call.answer = .error fault) :
    call.spends ∧ (Bounded.Width.bits32.count ≤ r.lastId + 1 ∨
      ∃ layout, call.request = .createMesh layout ∧ layout.byteSize = .error fault) := by
  cases h with
  | exhausted request fault hcreation hnumber =>
      exact ⟨by simp [DeviceCall.spends, hcreation], .inl hnumber⟩
  | oversized layout fault hsize =>
      cases hfault
      exact ⟨rfl, .inr ⟨layout, rfl, hsize⟩⟩
  | made | refused | destroyed | uploaded | drawn | ignored => cases hfault

theorem Does.draws_eq (h : Does r call r') (hdraw : ∀ d, call.request ≠ .draw d) :
    r'.draws = r.draws := by
  cases h with
  | made request k => cases k <;> rfl
  | destroyed ρ => cases ρ <;> rfl
  | drawn d => exact absurd rfl (hdraw d)
  | refused | exhausted | oversized | uploaded | ignored => rfl

theorem kept_upload (r : Recorder) (mesh : MeshId) (stored : RecordedMesh) (ρ : Resource) :
    { r with meshes := r.meshes.insert mesh stored }.kept ρ =
      if ρ = .mesh mesh then some (.mesh stored) else r.kept ρ := by
  cases ρ <;> simp only [kept, Table.get?_insert] <;> grind

/-- A call leaves what is kept of all but the resource that it makes or is asked to touch. -/
theorem Does.kept_eq (h : Does r call r') (hmade : call.made ≠ some ρ)
    (htouches : ¬ call.request.Touches ρ) : r'.kept ρ = r.kept ρ := by
  cases h with
  | made request k =>
      have hne : ρ ≠ k.resource (r.lastId + 1) := fun e => hmade (congrArg some e.symm)
      rw [kept_gain, if_neg hne]
  | destroyed σ => rw [kept_remove, if_neg fun e => htouches e.symm]
  | uploaded mesh bytes stored => rw [kept_upload, if_neg fun e => htouches e.symm]
  | refused | exhausted | oversized | drawn | ignored => cases ρ <;> rfl

theorem Does.form_eq (h : Does r call r') (hmade : call.made ≠ some ρ)
    (hdestroy : call.request ≠ .destroy ρ) : r'.form ρ = r.form ρ := by
  cases h with
  | uploaded mesh bytes stored hmesh =>
      rw [form, kept_upload]
      split
      · rename_i e
        subst e
        simp [form, kept, hmesh, Kept.emptied]
      · rfl
  | destroyed σ =>
      have hne : ρ ≠ σ := fun e => hdestroy (congrArg _ e.symm)
      rw [form, kept_remove, if_neg hne, form]
  | made request k =>
      have hne : ρ ≠ k.resource (r.lastId + 1) := fun e => hmade (congrArg some e.symm)
      rw [form, kept_gain, if_neg hne, form]
  | refused | exhausted | oversized | drawn | ignored => cases ρ <;> rfl

theorem Does.kept_made (h : Does r call r') (hmade : call.made = some ρ) :
    ∃ k, r'.kept ρ = some k ∧ call.request.Makes k := by
  cases h with
  | made request k hmakes =>
      cases hmade
      exact ⟨k, by rw [kept_gain, if_pos rfl], hmakes⟩
  | refused | exhausted | oversized | destroyed | uploaded | drawn | ignored => cases hmade

theorem Does.dead (h : Does r call r') (hdestroy : call.request = .destroy ρ) :
    r'.alive ρ = false := by
  cases h with
  | destroyed σ =>
      cases hdestroy
      rw [← isSome_kept, kept_remove, if_pos rfl]
      rfl
  | made request k hmakes =>
      cases hdestroy
      cases hmakes
  | refused _ _ _ hcreation | exhausted _ _ hcreation =>
      cases hdestroy
      cases hcreation
  | ignored request _ hdead => exact hdead ρ hdestroy
  | oversized | uploaded | drawn => cases hdestroy

theorem Does.alive_eq (h : Does r call r') (hmade : call.made ≠ some ρ)
    (hdestroy : call.request ≠ .destroy ρ) : r'.alive ρ = r.alive ρ := by
  rw [← isSome_form, ← isSome_form, h.form_eq hmade hdestroy]

theorem Does.alive_before (h : Does r call r') (halive : r'.alive ρ) :
    r.alive ρ ∨ call.made = some ρ := by
  by_cases hmade : call.made = some ρ
  · exact .inr hmade
  by_cases hdestroy : call.request = .destroy ρ
  · rw [h.dead hdestroy] at halive
    cases halive
  · rw [h.alive_eq hmade hdestroy] at halive
    exact .inl halive

end Recorder

end Mosaic
