import Mosaic.Proofs.Gpu.Creation
import Mosaic.Proofs.Gpu.Encode
import Mosaic.Proofs.Stage.Render

/-!
# The screen shows what is recorded

A run of commands on a screen and the same run on a recorder are compared step by step
(`Screen.Reflects`): the devices stay twins, nothing waits between two commands, and the processor
has shown the recorded draws that have vertices. A mesh on the processor may hold more than its
latest vertices, so what is shown is compared by what a draw reads and not by what a mesh holds.

On a sheet that is larger than the processor allows no texture is made, so on a run on which all
creations succeed the canvas is never set up (`Stage.fits_of_creates`).
-/

namespace Mosaic

namespace Recorder

/-- No draw is recorded. -/
def KeepsDraws (before : Recorder) (_ : List Note) (after : Recorder) : Prop :=
  after.draws = before.draws

instance : Action.IsTrace KeepsDraws where
  refl _ := rfl
  trans _ _ _ _ _ h h' := h'.trans h

theorem keepsDraws_of_request {α : Type} (request : DeviceRequest) {action : Action Recorder α}
    {answer : α → Except DeviceError (Option Resource)} (hrun : request.run = answer <$> action)
    (h : ∀ d, request ≠ .draw d) : Action.Traces KeepsDraws action := by
  intro r
  have hdraws := (does_run request r).draws_eq h
  rw [hrun, Action.run_map] at hdraws
  exact hdraws

theorem making_keepsDraws : Device.Making (δ := Recorder) (Action.Traces KeepsDraws) where
  createMesh layout := keepsDraws_of_request (.createMesh layout) rfl nofun
  createProgram := keepsDraws_of_request .createProgram rfl nofun
  createDrawState mesh program := keepsDraws_of_request (.createDrawState mesh program) rfl nofun
  createTexture image := keepsDraws_of_request (.createTexture image) rfl nofun
  destroy ρ := keepsDraws_of_request (.destroy ρ) rfl nofun

end Recorder

namespace GpuDevice

variable {limits : GpuLimits} {device : GpuDevice} {r : Recorder} {set : ResourceSet}

theorem Twin.mesh (h : Twin limits device r) (hbacks : r.Backs set) :
    device.meshes.get? set.mesh = some Stage.meshBytes := by
  obtain ⟨stored, hstored, hcapacity⟩ := hbacks.mesh
  rw [h.meshes, hstored, Option.map_some, hcapacity]

theorem Twin.passDraw (h : Twin limits device r) (hbacks : r.Backs set) {n : Nat}
    (hn : n < Bounded.Width.bits32.count) :
    device.passDraw ⟨set.drawState, set.texture, n⟩ =
      some ⟨set.drawState, set.texture, set.mesh, n⟩ := by
  have hmesh : device.meshes.contains set.mesh = true := by
    rw [Table.contains, h.mesh hbacks]
    rfl
  rw [GpuDevice.passDraw, h.drawStates, hbacks.drawState]
  simp only [h.textures, hbacks.texture, hmesh, Nat.mod_eq_of_lt hn, Bool.and_self, if_true]

/-- The pass of a device that was only asked to draw what a canvas holds. -/
theorem Twin.pass (h : Twin limits device r) (hbacks : r.Backs set)
    (hpending : device.pending = .empty) {n : Nat} (hn : n < Bounded.Width.bits32.count) :
    (device.pending.push ⟨set.drawState, set.texture, n⟩).visible.filterMap device.passDraw =
      if 0 < n then [⟨set.drawState, set.texture, set.mesh, n⟩] else [] := by
  rw [hpending, DrawQueue.visible_push_empty]
  split
  · simp only [List.filterMap_cons, h.passDraw hbacks hn, List.filterMap_nil]
  · rfl

end GpuDevice

namespace Screen

variable {screen : Screen} {c : Stage.Command} {view : View}

/-! ### Commands other than rendering -/

theorem draws_of_ne_render (hc : c ≠ .render) (stage : Stage Recorder) :
    (c.run.run stage).state.device.draws = stage.device.draws :=
  Stage.traces_command (fun _ _ _ => rfl) Recorder.making_keepsDraws hc stage

theorem screened_of_ne_render (hc : c ≠ .render) (view : View) : c.screened view = c.run := by
  cases c <;> first | rfl | exact absurd rfl hc

theorem keeps_of_ne_render (hc : c ≠ .render) (stage : Stage GpuDevice) :
    GpuDevice.Keeps stage.device (c.run.run stage).notes (c.run.run stage).state.device :=
  Stage.traces_command GpuDevice.keeps_log GpuDevice.making_keeps hc stage

theorem processor_apply_of_ne_render (hc : c ≠ .render) (screen : Screen) (view : View) :
    (screen.apply (c, view)).processor = screen.processor := by
  rw [apply, screened_of_ne_render hc]
  exact Processor.hear_of_textures (keeps_of_ne_render hc screen.stage).2.2 _

theorem pending_apply_of_ne_render (hc : c ≠ .render) (screen : Screen) (view : View) :
    (screen.apply (c, view)).stage.device.pending = screen.stage.device.pending := by
  rw [apply, screened_of_ne_render hc]
  exact (keeps_of_ne_render hc screen.stage).2.1

/-! ### Rendering -/

theorem apply_render_of_fault {fault : Fault} {stage : Stage GpuDevice} {notes : List Note}
    (h : Stage.render.run screen.stage = ⟨.error fault, stage, notes⟩) (view : View) :
    screen.apply (.render, view) = ⟨stage, screen.processor.hear notes⟩ := by
  have hrender : (Stage.Command.render.run).run screen.stage = ⟨.error fault, stage, notes⟩ := by
    rw [Stage.Command.run, Action.run_bind_pure, h]
    rfl
  rw [apply, Stage.Command.screened, Action.run_bind_of_error hrender]

/-- What was rendered is encoded at once. -/
theorem apply_render_of_ok {stage : Stage GpuDevice} {notes : List Note}
    (h : Stage.render.run screen.stage = ⟨.ok (), stage, notes⟩) (view : View) :
    screen.apply (.render, view) =
      ⟨⟨stage.canvas, { stage.device with pending := .empty }⟩,
        (screen.processor.hear notes).showing
          (stage.device.pending.visible.filterMap stage.device.passDraw)⟩ := by
  obtain ⟨more, hencode, hpass⟩ := GpuDevice.run_encode view.clear view.viewport stage.device
  have hrender : (Stage.Command.render.run).run screen.stage = ⟨.ok .done, stage, notes⟩ := by
    rw [Stage.Command.run, Action.run_bind_pure, h]
    rfl
  have hencoded : (Stage.onDevice (GpuDevice.encode view.clear view.viewport)).run stage =
      ⟨.ok (), ⟨stage.canvas, { stage.device with pending := .empty }⟩, more⟩ := by
    rw [Stage.onDevice, Action.run_part, hencode]
  rw [apply, Stage.Command.screened, Action.run_bind_of_ok hrender, Action.run_bind_of_ok hencoded]
  simp only [Action.run_pure, List.append_nil, Processor.hear_append, Processor.hear_pass _ hpass]

/-- A screen goes where its stage goes without encoding, but for the queue. -/
theorem stage_apply (screen : Screen) (c : Stage.Command) (view : View) :
    ∃ queue, (screen.apply (c, view)).stage =
      ⟨(c.run.run screen.stage).state.canvas,
        { (c.run.run screen.stage).state.device with pending := queue }⟩ := by
  by_cases hc : c = .render
  · subst hc
    rcases h : Stage.render.run screen.stage with ⟨fault | ⟨⟩, stage, notes⟩
    · rw [apply_render_of_fault h, Stage.Command.run, Action.run_bind_pure, h]
      exact ⟨_, rfl⟩
    · rw [apply_render_of_ok h, Stage.Command.run, Action.run_bind_pure, h]
      exact ⟨_, rfl⟩
  · rw [apply, screened_of_ne_render hc]
    exact ⟨_, rfl⟩

/-! ### The screen and the recorder -/

/-- The processor has shown what was recorded with vertices, and all the rest is the same. -/
structure Reflects (screen : Screen) (s : Shared) : Prop where
  accounted : s.Accounted
  sound : s.stage.canvas.Sound
  /-- Nobody but the canvas calls the recorder. -/
  own : ∀ entry ∈ s.log, entry.1 = .canvas
  linked : Stage.Linked (GpuDevice.Twin .standard) screen.stage s.stage
  fits : ∀ a, s.stage.canvas.active = some a → s.stage.canvas.sheet.image.Fits .standard
  pending : screen.stage.device.pending = .empty
  shown : screen.processor.shown = s.stage.device.draws.filter DrawRecord.visible

theorem reflects_fresh (sheet : Sheet) (buffers : MeshId → List UInt8) :
    (fresh sheet buffers).Reflects (.fresh sheet) where
  accounted := Shared.accounted_fresh sheet
  sound := Canvas.sound_fresh sheet
  own _ h := absurd h List.not_mem_nil
  linked := ⟨rfl, GpuDevice.twin_fresh _⟩
  fits _ h := by cases h
  pending := rfl
  shown := rfl

variable {s : Shared}

theorem Reflects.backs (h : screen.Reflects s) {a : Active} (ha : s.stage.canvas.active = some a) :
    s.stage.device.Backs a.resources := by
  have hlost : ∀ ρ, ¬ CallLog.Lost s.log ρ := by
    rintro ρ ⟨before, call, after, hlog, -⟩
    have hown := h.own (.others, call) (by simp [hlog])
    cases hown
  exact h.accounted.backs ha (hlost _) (hlost _) (hlost _)

/-- A command whose creations succeed leaves the devices twins. -/
theorem Reflects.linked_command (h : screen.Reflects s)
    (hmade : ∀ call ∈ screen.stage.calls (.command c), call.request.isCreation →
      call.made.isSome) :
    Stage.Linked (GpuDevice.Twin .standard) (c.run.run screen.stage).state
        (c.run.run s.stage).state ∧
      ∀ a, (c.run.run s.stage).state.canvas.active = some a →
        s.stage.canvas.sheet.image.Fits .standard := by
  have himage : screen.stage.canvas.sheet.image = s.stage.canvas.sheet.image := by rw [h.linked.1]
  by_cases hfits : s.stage.canvas.sheet.image.Fits .standard
  · have hsimulates := GpuDevice.simulates_twin hfits
    exact ⟨(Stage.command_of_linked hsimulates c h.linked himage).2, fun _ _ => hfits⟩
  · have hunset : s.stage.canvas.active = none :=
      Option.eq_none_iff_forall_not_mem.2 fun a ha => hfits (h.fits a ha)
    have hunset' : screen.stage.canvas.active = none := h.linked.1 ▸ hunset
    obtain ⟨hlinked, hstays⟩ := Stage.linked_of_unset (c := c) h.linked hunset' fun g hg => by
      subst hg
      refine (Stage.fits_of_creates hunset' hmade).resolve_left fun hfits' => hfits ?_
      rw [← himage, ← h.linked.2.limits]
      exact hfits'
    refine ⟨hlinked, fun a ha => ?_⟩
    rw [← hlinked.1, hstays] at ha
    cases ha

/-- A rendering adds to what is shown what it adds to the record, unless that has no vertices. -/
theorem Reflects.shown_render (h : screen.Reflects s) (view : View) :
    (screen.apply (.render, view)).stage.device.pending = .empty ∧
      (screen.apply (.render, view)).processor.shown =
        (Stage.render.run s.stage).state.device.draws.filter DrawRecord.visible := by
  have hcanvas := h.linked.1
  cases hactive : s.stage.canvas.active with
  | none =>
      rw [apply_render_of_fault (Stage.run_render_of_unset (hcanvas ▸ hactive)),
        Stage.run_render_of_unset hactive]
      exact ⟨h.pending, h.shown⟩
  | some a =>
  have hactive' : screen.stage.canvas.active = some a := hcanvas ▸ hactive
  have hsound' : screen.stage.canvas.Sound := hcanvas ▸ h.sound
  cases hlayout : s.stage.canvas.layout a.config with
  | error fault =>
      obtain ⟨arena, hrun⟩ := Stage.run_render_of_layout_fault hactive h.sound hlayout
      obtain ⟨_, hrun'⟩ := Stage.run_render_of_layout_fault hactive' hsound' (hcanvas ▸ hlayout)
      rw [apply_render_of_fault hrun', hrun]
      exact ⟨h.pending, h.shown⟩
  | ok vertices =>
  have hbacks := h.backs hactive
  obtain ⟨arena, line, hrun⟩ := Stage.run_render_of_backs hactive h.sound hbacks hlayout
  obtain ⟨arena', line', hrun'⟩ := Stage.run_render_of_layout hactive' hsound' (hcanvas ▸ hlayout)
    (GpuDevice.run_upload_of_fits (h.linked.2.mesh hbacks)
      (Canvas.length_encode_of_layout hactive h.sound hlayout)) rfl
  have hlt := Canvas.length_lt_of_layout hactive h.sound hlayout
  have hpass := h.linked.2.pass hbacks h.pending hlt
  have hshown := screen.processor.shown_of_written a.resources.drawState a.resources.texture
    a.resources.mesh vertices
  rw [← hpass, h.shown, ← List.filter_append] at hshown
  rw [apply_render_of_ok hrun', hrun, Processor.hear_log, List.append_nil]
  exact ⟨rfl, hshown⟩

theorem Reflects.apply (h : screen.Reflects s)
    (hmade : ∀ call ∈ screen.stage.calls (.command c), call.request.isCreation →
      call.made.isSome) (view : View) :
    (screen.apply (c, view)).Reflects (Shared.Turn.apply s (.canvas (.command c))) := by
  obtain ⟨hlinked, hfits⟩ := h.linked_command hmade
  obtain ⟨queue, hstage⟩ := stage_apply screen c view
  have hkeeps := Stage.follows_command c s.stage
  have hrest : (screen.apply (c, view)).stage.device.pending = .empty ∧
      (screen.apply (c, view)).processor.shown =
        (c.run.run s.stage).state.device.draws.filter DrawRecord.visible := by
    by_cases hc : c = .render
    · subst hc
      rw [Stage.Command.run, Action.run_bind_pure]
      exact h.shown_render view
    · rw [pending_apply_of_ne_render hc, processor_apply_of_ne_render hc, draws_of_ne_render hc]
      exact ⟨h.pending, h.shown⟩
  exact {
    accounted := Shared.accounted_canvas h.accounted (.command c)
    sound := hkeeps.sound h.sound
    own := fun entry hentry => by
      obtain hbefore | hnow := List.mem_append.1 hentry
      · exact h.own entry hbefore
      · obtain ⟨call, -, rfl⟩ := List.mem_map.1 hnow
        rfl
    linked := hstage ▸ ⟨hlinked.1, { hlinked.2 with }⟩
    fits := fun a ha => by
      have hsheet : (c.run.run s.stage).state.canvas.sheet = s.stage.canvas.sheet := hkeeps.sheet
      exact hsheet ▸ hfits a ha
    pending := hrest.1
    shown := hrest.2 }

theorem Reflects.after (h : screen.Reflects s) (frames : List (Stage.Command × View))
    (hmade : screen.Creates frames) :
    (screen.after frames).Reflects
      (s.after (frames.map fun frame => .canvas (.command frame.1))) := by
  induction frames generalizing screen s with
  | nil => exact h
  | cons frame frames ih => exact ih (h.apply hmade.1 frame.2) hmade.2

theorem stage_after_shared (s : Shared) (frames : List (Stage.Command × View)) :
    (s.after (frames.map fun frame => .canvas (.command frame.1))).stage =
      s.stage.after (frames.map fun frame => .command frame.1) := by
  induction frames generalizing s with
  | nil => rfl
  | cons frame frames ih => exact ih (Shared.Turn.apply s (.canvas (.command frame.1)))

/-- Over any run of commands on which all creations succeed, each rendering being encoded at once: a
processor has shown just the draws that a recorder records in the same run, in order, each with the
vertices that are recorded of it, but for those without vertices; whatever the meshes held before.
No draw waits after the run, and the canvas is the same. -/
theorem shows_what_is_recorded (sheet : Sheet) (buffers : MeshId → List UInt8)
    (frames : List (Stage.Command × View)) (hmade : (fresh sheet buffers).Creates frames) :
    let screen := (fresh sheet buffers).after frames
    let recorded := (Stage.fresh sheet Recorder.fresh).after
      (frames.map fun frame => .command frame.1)
    screen.processor.shown = recorded.device.draws.filter DrawRecord.visible ∧
      screen.stage.device.pending = .empty ∧ screen.stage.canvas = recorded.canvas := by
  have h := (reflects_fresh sheet buffers).after frames hmade
  have hstage := stage_after_shared (.fresh sheet) frames
  exact ⟨hstage ▸ h.shown, h.pending, hstage ▸ h.linked.1⟩

/-- A run that shows less and less, then nothing, and starts anew. -/
def shrinkingPlay : List (Stage.Command × View) :=
  [.setup ⟨3, 2, 8, 8, 1⟩, .setTile (some ⟨0⟩) 1 1, .setSprite 0 (some ⟨0⟩) ⟨0, 0, 8, 8⟩, .render,
    .setTile none 1 1, .render, .clear, .render, .discard, .setup ⟨1, 1, 8, 8, 0⟩,
    .setTile (some ⟨0⟩) 0 0, .render].map fun c => (c, ⟨.black, ⟨0, 0, 24, 16⟩⟩)

theorem shows_what_is_recorded_shrinkingPlay :
    let buffers := fun _ => List.replicate 40 255
    let screen := (fresh Stage.straySheet buffers).after shrinkingPlay
    (fresh Stage.straySheet buffers).Creates shrinkingPlay ∧
      screen.processor.shown.map DrawRecord.call =
        [⟨⟨3⟩, ⟨4⟩, 12⟩, ⟨⟨3⟩, ⟨4⟩, 6⟩, ⟨⟨7⟩, ⟨8⟩, 6⟩] := by
  intro buffers screen
  have hmade : (fresh Stage.straySheet buffers).Creates shrinkingPlay := by decide +kernel
  have hshown := (shows_what_is_recorded Stage.straySheet buffers shrinkingPlay hmade).1
  refine ⟨hmade, ?_⟩
  rw [show screen.processor.shown = _ from hshown]
  decide +kernel

end Screen

end Mosaic
