import Mathlib.Order.WellFounded
import Mosaic.Proofs.Device.Supply
import Mosaic.Proofs.Stage.Heard
import Mosaic.Proofs.Stage.Render

/-!
# One canvas on two recorders

A stage `Mirrors` another when their canvases are akin and each recorder has what its canvas holds,
with numbers that a growing function translates. An operation then sounds the same on both, in other
numbers, as long as numbers last (`Mirrors.operation`). When it makes resources, they get the next
numbers on either recorder, and the translation is extended to them (`extended`); nothing that was
heard before names them, so what was heard stays translated.
-/

namespace Mosaic

namespace Recorder

theorem backs_equipped (r : Recorder) (image : Image) :
    (r.equipped Stage.meshBytes image).Backs r.nextSet where
  mesh := ⟨_, Table.get?_insert_self _ _ _, rfl⟩
  drawState := Table.get?_insert_self _ _ _
  texture := by simp [equipped, gain, nextSet, Table.contains]

theorem Backs.showing {r : Recorder} {set : ResourceSet} (h : r.Backs set)
    (vertices : List Vertex) : (r.showing set vertices).Backs set :=
  ⟨⟨_, Table.get?_insert_self _ _ _, rfl⟩, h.drawState, h.texture⟩

theorem below_nextSet (r : Recorder) : r.nextSet.Below (r.lastId + 4) where
  mesh := Nat.add_le_add_left (by decide) _
  program := Nat.add_le_add_left (by decide) _
  drawState := Nat.add_le_add_left (by decide) _
  texture := Nat.le_refl _

end Recorder

namespace Stage

/-! ### Stages that mirror each other -/

/-- No operation of a canvas makes a recorder fail. -/
theorem reliable_operation (op : Operation) :
    Action.Traces (OnDevice Recorder.StaysReliable) (op.run : Action (Stage Recorder) Reply) := by
  have hlog : ∀ (r : Recorder) level text, Recorder.StaysReliable r [.log level text] r :=
    fun _ _ _ h => h
  cases op with
  | drop =>
      exact Action.traces_bind (traces_drop hlog Recorder.making_reliable) fun _ =>
        Action.traces_pure _
  | command c =>
      by_cases hc : c = .render
      · subst hc
        exact Action.traces_bind
          (traces_render hlog Recorder.reliable_upload Recorder.reliable_draw) fun _ =>
            Action.traces_pure _
      · exact traces_command hlog Recorder.making_reliable hc

/-- The second stage has an akin canvas on another recorder: neither recorder is made to fail, each
has what its canvas holds, and `f` grows with the numbers of the first up to the latest one of the
second. -/
structure Mirrors (f : Nat → Nat) (s t : Stage Recorder) : Prop where
  akin : s.canvas.Akin f t.canvas
  sound : s.canvas.Sound
  sound' : t.canvas.Sound
  reliable : s.device.failing = none
  reliable' : t.device.failing = none
  strictMono : StrictMono f
  lastId : f s.device.lastId ≤ t.device.lastId
  below : ∀ a, s.canvas.active = some a → a.resources.Below s.device.lastId
  backs : ∀ a, s.canvas.active = some a →
    s.device.Backs a.resources ∧ t.device.Backs (a.resources.rename f)

/-- The operation sounds the same on both stages, in other numbers, and they still mirror each
other. -/
structure Echoes (f : Nat → Nat) (s t : Stage Recorder) (op : Operation) : Prop where
  mirrors : Mirrors f (op.run.run s).state (op.run.run t).state
  heard : t.hear op = (s.hear op).rename f
  below : (s.hear op).Below (op.run.run s).state.device.lastId

section Mirrors

variable {f : Nat → Nat} {s t : Stage Recorder} {a : Active}

theorem Mirrors.active (h : Mirrors f s t) (ha : s.canvas.active = some a) :
    t.canvas.active = some (a.rename f) := by
  rw [h.akin.active, ha]
  rfl

theorem Mirrors.unset (h : Mirrors f s t) (hs : s.canvas.active = none) :
    t.canvas.active = none := by
  rw [h.akin.active, hs]
  rfl

theorem Mirrors.lastId_le (h : Mirrors f s t) : s.device.lastId ≤ t.device.lastId :=
  Nat.le_trans (h.strictMono.le_apply) h.lastId

theorem lastId_le_operation (op : Operation) (s : Stage Recorder) :
    s.device.lastId ≤ (op.run.run s).state.device.lastId := (serves_calls op s).lastId_le

/-- The numbers that are heard were given before, if those of the draws were. -/
theorem Mirrors.below_hear (h : Mirrors f s t) {op : Operation}
    (hdraws : ∀ d ∈ (s.hear op).draws,
      d.call.drawState.id ≤ s.device.lastId ∧ d.call.texture.id ≤ s.device.lastId) :
    (s.hear op).Below (op.run.run s).state.device.lastId where
  result set hset := by
    obtain ⟨a, ha, rfl⟩ := Option.map_eq_some_iff.1 (resources_of_reply hset)
    exact (h.below a ha).mono (lastId_le_operation op s)
  draws d hd := by
    obtain ⟨hdrawState, htexture⟩ := hdraws d hd
    exact ⟨Nat.le_trans hdrawState (lastId_le_operation op s),
      Nat.le_trans htexture (lastId_le_operation op s)⟩

theorem Mirrors.below_hear_of_no_draw (h : Mirrors f s t) {op : Operation}
    (hdraws : (op.run.run s).state.device.draws = s.device.draws) :
    (s.hear op).Below (op.run.run s).state.device.lastId := by
  refine h.below_hear fun d hd => ?_
  rw [hear_of_no_draw s op hdraws] at hd
  cases hd

/-- An operation that takes no number leaves the translation as it is. -/
theorem Mirrors.of_kept (h : Mirrors f s t) (op : Operation)
    (hakin : (op.run.run s).state.canvas.Akin f (op.run.run t).state.canvas)
    (hlastId : (op.run.run s).state.device.lastId = s.device.lastId)
    (hactive : ∀ a, (op.run.run s).state.canvas.active = some a → s.canvas.active = some a ∧
      (op.run.run s).state.device.Backs a.resources ∧
        (op.run.run t).state.device.Backs (a.resources.rename f)) :
    Mirrors f (op.run.run s).state (op.run.run t).state where
  akin := hakin
  sound := (keeps_operation op s).sound h.sound
  sound' := (keeps_operation op t).sound h.sound'
  reliable := reliable_operation op s h.reliable
  reliable' := reliable_operation op t h.reliable'
  strictMono := h.strictMono
  lastId := by
    rw [hlastId]
    exact Nat.le_trans h.lastId (lastId_le_operation op t)
  below a ha := by
    rw [hlastId]
    exact h.below a (hactive a ha).1
  backs a ha := (hactive a ha).2

/-- An operation after which both canvases are as before, on recorders as before. -/
theorem Mirrors.of_idle (h : Mirrors f s t) {op : Operation}
    (hs : (op.run.run s).state = s) (ht : (op.run.run t).state = t)
    (hresult : (op.run.run t).result = Reply.rename f <$> (op.run.run s).result) :
    Echoes f s t op where
  mirrors := by rwa [hs, ht]
  heard := by
    rw [hear_of_no_draw t op (by rw [ht]), hear_of_no_draw s op (by rw [hs]), hresult]
    rfl
  below := h.below_hear_of_no_draw (by rw [hs])

/-! ### Operations on mirrored stages -/

theorem run_command_setup (c : Config) (u : Stage Recorder) :
    (Operation.command (.setup c)).run.run u =
      ⟨Reply.setup <$> ((setup c).run u).result, ((setup c).run u).state,
        ((setup c).run u).notes⟩ := Action.run_map _ _ _

theorem run_command_render (u : Stage Recorder) :
    (Operation.command .render).run.run u =
      ⟨(fun _ => Reply.done) <$> (render.run u).result, (render.run u).state,
        (render.run u).notes⟩ := Action.run_bind_pure _ _ _

theorem Mirrors.silent (h : Mirrors f s t) {c : Command} (hc : ¬ c.AsksDevice) :
    Echoes f s t (.command c) := by
  have hdevice : ∀ u : Stage Recorder, (c.run.run u).state.device = u.device := device_command hc
  have hactive : (c.run.run s).state.canvas.active = s.canvas.active :=
    active_of_not_asksDevice hc s
  obtain ⟨hresult, hakin⟩ := renames_command hc s t h.akin
  refine ⟨h.of_kept (.command c) hakin (congrArg _ (hdevice s)) fun a ha => ?_, ?_,
    h.below_hear_of_no_draw (congrArg _ (hdevice s))⟩
  · rw [Operation.run, hactive] at ha
    rw [Operation.run, hdevice, hdevice]
    exact ⟨ha, h.backs a ha⟩
  · have hs := hear_of_no_draw s (.command c) (congrArg _ (hdevice s))
    have ht := hear_of_no_draw t (.command c) (congrArg _ (hdevice t))
    rw [ht, hs]
    exact congrArg (Heard.mk · []) hresult

/-- To render a canvas does to it what listing its vertices does. -/
theorem canvas_render {δ : Type} [Device δ] {stage : Stage δ} (h : stage.canvas.active = some a) :
    (render.run stage).state.canvas = (Canvas.updateVertices.run stage.canvas).state := by
  rw [render, Action.run_bind_of_silent (run_requireActive h), Action.run_bind, onCanvas,
    Action.run_part]
  cases (Canvas.updateVertices.run stage.canvas).result with
  | error fault => rfl
  | ok u =>
      dsimp only
      rw [Action.run_get_bind, Action.run_log_bind]
      simp only [onDevice, Action.run_bind, Action.run_part]
      generalize (Device.upload _ _).run stage.device = outcome
      obtain ⟨fault | _, d, notes⟩ := outcome <;> rfl

theorem Mirrors.layout (h : Mirrors f s t) (c : Config) :
    t.canvas.layout c = s.canvas.layout c :=
  Canvas.layout_congr c h.akin.sheet
    (fun x y => ((Canvas.seesTiles_akin f).tile h.akin x y).symm)
    fun slot => (h.akin.sprite slot).symm

theorem Mirrors.render (h : Mirrors f s t) : Echoes f s t (.command .render) := by
  cases ha : s.canvas.active with
  | none =>
      have hs := run_render_of_unset ha
      have ht := run_render_of_unset (h.unset ha)
      refine h.of_idle ?_ ?_ ?_
      · rw [run_command_render, hs]
      · rw [run_command_render, ht]
      · rw [run_command_render, run_command_render, hs, ht]
        rfl
  | some a =>
  have hakin : ((Operation.command .render).run.run s).state.canvas.Akin f
      ((Operation.command .render).run.run t).state.canvas := by
    rw [run_command_render, run_command_render, canvas_render ha, canvas_render (h.active ha)]
    exact (Canvas.matches_updateVertices _ _ h.akin).2
  obtain ⟨hbacks, hbacks'⟩ := h.backs a ha
  have hlayout' := h.layout a.config
  cases hlayout : s.canvas.layout a.config with
  | error fault =>
      rw [hlayout] at hlayout'
      obtain ⟨arena, hs⟩ := run_render_of_layout_fault ha h.sound hlayout
      obtain ⟨arena', ht⟩ := run_render_of_layout_fault (h.active ha) h.sound' hlayout'
      refine ⟨h.of_kept _ hakin (by rw [run_command_render, hs]) fun b hb => ?_, ?_,
        h.below_hear_of_no_draw (by rw [run_command_render, hs])⟩
      · rw [run_command_render, hs] at hb ⊢
        rw [run_command_render, ht]
        exact ⟨hb, h.backs b hb⟩
      · rw [hear_of_no_draw s _ (by rw [run_command_render, hs]),
          hear_of_no_draw t _ (by rw [run_command_render, ht]), run_command_render,
          run_command_render, hs, ht]
        rfl
  | ok vertices =>
      rw [hlayout] at hlayout'
      obtain ⟨arena, line, hs⟩ := run_render_of_backs ha h.sound hbacks hlayout
      obtain ⟨arena', line', ht⟩ := run_render_of_backs (h.active ha) h.sound' hbacks' hlayout'
      have hheard := hear_of_draws s (.command .render) (by rw [run_command_render, hs]; rfl)
      have hheard' := hear_of_draws t (.command .render) (by rw [run_command_render, ht]; rfl)
      refine ⟨h.of_kept _ hakin ?_ fun b hb => ?_, ?_, h.below_hear fun d hd => ?_⟩
      · rw [run_command_render, hs]
        rfl
      · rw [run_command_render, hs] at hb ⊢
        rw [run_command_render, ht]
        cases ha.symm.trans hb
        exact ⟨ha, hbacks.showing vertices, hbacks'.showing vertices⟩
      · rw [hheard, hheard', run_command_render, run_command_render, hs, ht]
        rfl
      · rw [hheard] at hd
        cases List.mem_singleton.1 hd
        exact ⟨(h.below a ha).drawState, (h.below a ha).texture⟩

/-- On a recorder a canvas that is not set up is left alone, and otherwise all that it holds is
destroyed. -/
theorem discards_cases {canvas : Canvas} {calls : List DeviceCall} {r' : Recorder}
    (h : Discards s canvas calls) (hserves : Device.Serves s.device calls r') :
    (s.canvas.active = none ∧ canvas = s.canvas ∧ r' = s.device) ∨
      ∃ a, s.canvas.active = some a ∧ canvas = closed s.canvas ∧
        r'.lastId = s.device.lastId ∧ r'.draws = s.device.draws := by
  cases h with
  | unset h => exact .inl ⟨h, rfl, hserves⟩
  | stuck a fault calls ρ h hcall => exact absurd hcall (not_stuck hserves)
  | released a h =>
      have hcalls : ∀ call ∈ ResourceSet.destructions a.resources.toList.reverse,
          ∃ ρ, call = .doing (.destroy ρ) := fun call hcall =>
        (ResourceSet.mem_destructions.1 hcall).imp fun ρ hρ => hρ.2
      have hspends : (ResourceSet.destructions a.resources.toList.reverse).countP
          DeviceCall.spends = 0 := by
        refine List.countP_eq_zero.2 fun call hcall => ?_
        obtain ⟨ρ, rfl⟩ := hcalls call hcall
        exact Bool.false_ne_true
      have hle := hserves.lastId_le_add
      rw [hspends] at hle
      refine .inr ⟨a, h, rfl, Nat.le_antisymm hle hserves.lastId_le,
        hserves.draws_eq fun call hcall => ?_⟩
      obtain ⟨ρ, rfl⟩ := hcalls call hcall
      exact nofun

theorem Mirrors.discards (h : Mirrors f s t) {op : Operation}
    (hdiscards : ∀ u : Stage Recorder, Discards u (op.run.run u).state.canvas (u.calls op))
    (hresult : ∀ u : Stage Recorder, (op.run.run u).result = .ok .done) : Echoes f s t op := by
  have hs := discards_cases (hdiscards s) (serves_calls op s)
  have ht := discards_cases (hdiscards t) (serves_calls op t)
  cases ha : s.canvas.active with
  | none =>
      obtain ⟨-, hcanvas, hdevice⟩ | ⟨a, ha', -⟩ := hs
      · obtain ⟨-, hcanvas', hdevice'⟩ | ⟨a, ha', -⟩ := ht
        · refine h.of_idle ?_ ?_ ?_
          · exact congrArg₂ Stage.mk hcanvas hdevice
          · exact congrArg₂ Stage.mk hcanvas' hdevice'
          · rw [hresult, hresult]
            rfl
        · cases (h.unset ha).symm.trans ha'
      · cases ha.symm.trans ha'
  | some a =>
      obtain ⟨hnone, -⟩ | ⟨_, -, hcanvas, hlastId, hdraws⟩ := hs
      · cases ha.symm.trans hnone
      obtain ⟨hnone, -⟩ | ⟨_, -, hcanvas', -, hdraws'⟩ := ht
      · cases (h.active ha).symm.trans hnone
      refine ⟨h.of_kept op ?_ hlastId fun b hb => ?_, ?_, h.below_hear_of_no_draw hdraws⟩
      · rw [hcanvas, hcanvas']
        exact h.akin.closed
      · rw [hcanvas] at hb
        cases hb
      · rw [hear_of_no_draw s op hdraws, hear_of_no_draw t op hdraws', hresult, hresult]
        rfl

theorem result_discard (u : Stage Recorder) : (discard.run u).result = .ok () := by
  cases ha : u.canvas.active with
  | none =>
      obtain ⟨line, hrun⟩ := run_discard_of_unset ha
      rw [hrun]
  | some a =>
      have hresult := Recorder.result_release a.resources u.device
      rcases hrelease : a.resources.release.run u.device with ⟨result, d, notes⟩
      rw [hrelease] at hresult
      cases hresult
      obtain ⟨line, hrun⟩ := run_discard_of_released ha hrelease
      rw [hrun]

theorem result_drop (u : Stage Recorder) : (drop.run u).result = .ok () := by
  cases ha : u.canvas.active with
  | none => rw [run_drop_of_unset ha]
  | some a => rw [run_drop_of_active ha, result_discard]

theorem Mirrors.discard (h : Mirrors f s t) : Echoes f s t (.command .discard) := by
  refine h.discards discards_discard fun u => ?_
  rw [Operation.run, Command.run, Action.run_bind_pure, result_discard]
  rfl

theorem Mirrors.drop (h : Mirrors f s t) : Echoes f s t .drop := by
  refine h.discards discards_drop fun u => ?_
  rw [Operation.run, Action.run_bind_pure, result_drop]
  rfl

/-! ### Setting up on mirrored stages -/

/-- The translation goes on beyond `n`, with the numbers that follow `m`. -/
def extended (f : Nat → Nat) (n m k : Nat) : Nat := if k ≤ n then f k else m + (k - n)

theorem extended_of_le {n m k : Nat} (h : k ≤ n) : extended f n m k = f k := if_pos h

theorem extended_add {n m k : Nat} (h : 0 < k) : extended f n m (n + k) = m + k := by
  rw [extended, if_neg (by omega), Nat.add_sub_cancel_left]

theorem strictMono_extended (hf : StrictMono f) {n m : Nat} (h : f n ≤ m) :
    StrictMono (extended f n m) := by
  intro i j hij
  by_cases hj : j ≤ n
  · rw [extended_of_le hj, extended_of_le (Nat.le_trans (Nat.le_of_lt hij) hj)]
    exact hf hij
  · rw [extended, extended, if_neg hj]
    split
    · rename_i hi
      have hle := Nat.le_trans (hf.monotone hi) h
      omega
    · omega

/-- Setting up a canvas that is not set up makes its resources with the next numbers, as long as
there are some. -/
theorem run_setup_of_room {c : Config} (hunset : s.canvas.active = none)
    (hc : c.validate = .ok ()) (hreliable : s.device.failing = none)
    (hroom : s.device.lastId + 4 < Bounded.Width.bits32.count) :
    ∃ line, (setup c).run s = ⟨.ok (.ok ()), ⟨opened c s.device.nextSet s.canvas,
      s.device.equipped meshBytes s.canvas.sheet.image⟩, [.log .debug line]⟩ := by
  obtain ⟨-, hacquire⟩ | ⟨hfailing, -⟩ | ⟨hnumber, -⟩ :=
    ResourceSet.acquire_cases byteSize_meshLayout s.canvas.sheet.image s.device
  · exact run_setup_of_made hunset hc hacquire
  · exact absurd hreliable hfailing
  · exact absurd hroom (Nat.not_lt.2 hnumber)

/-- A recorder that has numbers for the creations of a canvas has them for all four. -/
theorem room_of_calls {c : Config} (hunset : s.canvas.active = none) (hc : c.validate = .ok ())
    (hreliable : s.device.failing = none)
    (hroom : s.device.lastId + (s.calls (.command (.setup c))).countP DeviceCall.spends <
      Bounded.Width.bits32.count) :
    s.device.lastId + 4 < Bounded.Width.bits32.count := by
  have hserves := serves_calls (.command (.setup c)) s
  have hsets := setsUp s c
  generalize s.calls (.command (.setup c)) = calls at *
  obtain ⟨-, hacquire⟩ | ⟨hfailing, -⟩ | ⟨-, fault, r', hacquire⟩ :=
    ResourceSet.acquire_cases byteSize_meshLayout s.canvas.sheet.image s.device
  · obtain ⟨line, hrun⟩ := run_setup_of_made hunset hc hacquire
    rw [hrun] at hsets
    cases hsets with
    | made set calls _ _ hcalls =>
        cases hcalls
        exact hroom
  · exact absurd hreliable hfailing
  · rw [run_setup_of_fault hunset hc hacquire] at hsets
    cases hsets with
    | stopped _ calls _ _ hcalls =>
        cases hcalls with
        | stuck _ ρ _ hstuck => exact absurd hstuck (not_stuck hserves)
        | stopped set k request _ hrequest =>
            obtain ⟨-, hnumber | ⟨layout, rfl, hsize⟩⟩ :=
              hserves.stop (List.mem_append_right _ (List.mem_singleton_self _)) rfl
            · exact absurd hroom (Nat.not_lt.2 hnumber)
            · rw [set.layout_of_mem_requests (List.mem_of_getElem? hrequest)] at hsize
              cases hsize

/-- The next numbers of the first recorder are translated to the next ones of the second. -/
theorem rename_nextSet (f : Nat → Nat) (r r' : Recorder) :
    r.nextSet.rename (extended f r.lastId r'.lastId) = r'.nextSet := by
  simp only [ResourceSet.rename, Recorder.nextSet]
  rw [extended_add (by decide), extended_add (by decide), extended_add (by decide),
    extended_add (by decide)]

/-- Canvases that were both just set up mirror each other, if their resources are translated. -/
theorem mirrors_opened {c : Config} (hc : c.validate = .ok ())
    (hsheet : t.canvas.sheet = s.canvas.sheet) (hsound : s.canvas.Sound)
    (hsound' : t.canvas.Sound) (hreliable : s.device.failing = none)
    (hreliable' : t.device.failing = none) (hf : StrictMono f)
    (hnext : s.device.nextSet.rename f = t.device.nextSet) :
    Mirrors f ⟨opened c s.device.nextSet s.canvas, s.device.equipped meshBytes s.canvas.sheet.image⟩
      ⟨opened c t.device.nextSet t.canvas, t.device.equipped meshBytes t.canvas.sheet.image⟩ where
  akin := by
    rw [← hnext]
    exact Canvas.akin_opened c _ hsheet (hsound'.capacity.trans hsound.capacity.symm)
  sound := (keeps_opened (Config.validate_eq_ok_iff.1 hc) _ _).sound hsound
  sound' := (keeps_opened (Config.validate_eq_ok_iff.1 hc) _ _).sound hsound'
  reliable := hreliable
  reliable' := hreliable'
  strictMono := hf
  lastId := Nat.le_of_eq (congrArg (fun set => set.texture.id) hnext)
  below a ha := by
    cases ha
    exact s.device.below_nextSet
  backs a ha := by
    cases ha
    rw [hnext]
    exact ⟨Recorder.backs_equipped _ _, Recorder.backs_equipped _ _⟩

/-- When the first canvas is set up, so is the second, and the translation goes on to what both
make. -/
theorem Mirrors.opened (h : Mirrors f s t) {c : Config} (hunset : s.canvas.active = none)
    (hc : c.validate = .ok ())
    (hroom : t.device.lastId + (t.calls (.command (.setup c))).countP DeviceCall.spends <
      Bounded.Width.bits32.count) :
    Echoes (extended f s.device.lastId t.device.lastId) s t (.command (.setup c)) := by
  have hunset' := h.unset hunset
  have hlast := room_of_calls hunset' hc h.reliable' hroom
  have hfirst : s.device.lastId + 4 < Bounded.Width.bits32.count :=
    Nat.lt_of_le_of_lt (Nat.add_le_add_right h.lastId_le 4) hlast
  obtain ⟨line, hs⟩ := run_setup_of_room hunset hc h.reliable hfirst
  obtain ⟨line', ht⟩ := run_setup_of_room hunset' hc h.reliable' hlast
  have hheard := hear_of_no_draw s (.command (.setup c)) (by rw [run_command_setup, hs]; rfl)
  have hheard' := hear_of_no_draw t (.command (.setup c)) (by rw [run_command_setup, ht]; rfl)
  refine ⟨?_, ?_, h.below_hear_of_no_draw (by rw [run_command_setup, hs]; rfl)⟩
  · rw [run_command_setup, run_command_setup, hs, ht]
    exact mirrors_opened hc h.akin.sheet h.sound h.sound' h.reliable h.reliable'
      (strictMono_extended h.strictMono h.lastId) (rename_nextSet f s.device t.device)
  · rw [hheard, hheard', run_command_setup, run_command_setup, hs, ht]
    rfl

/-- An operation sounds the same on a stage that mirrors another, as long as numbers last. -/
theorem Mirrors.operation (h : Mirrors f s t) (op : Operation)
    (hroom : t.device.lastId + (t.calls op).countP DeviceCall.spends <
      Bounded.Width.bits32.count) :
    ∃ g, (∀ k ≤ s.device.lastId, g k = f k) ∧ Echoes g s t op := by
  have hsame : Echoes f s t op → ∃ g, (∀ k ≤ s.device.lastId, g k = f k) ∧ Echoes g s t op :=
    fun hechoes => ⟨f, fun _ _ => rfl, hechoes⟩
  cases op with
  | drop => exact hsame h.drop
  | command c =>
  by_cases hasks : c.AsksDevice
  · cases c with
    | discard => exact hsame h.discard
    | render => exact hsame h.render
    | setup c =>
        cases ha : s.canvas.active with
        | some a =>
            have hs := run_setup_of_active ha c
            have ht := run_setup_of_active (h.active ha) c
            refine hsame (h.of_idle ?_ ?_ ?_)
            · rw [run_command_setup, hs]
            · rw [run_command_setup, ht]
            · rw [run_command_setup, run_command_setup, hs, ht]
              rfl
        | none =>
        cases hc : c.validate with
        | error e =>
            have hs := run_setup_of_invalid ha hc
            have ht := run_setup_of_invalid (h.unset ha) hc
            refine hsame (h.of_idle ?_ ?_ ?_)
            · rw [run_command_setup, hs]
            · rw [run_command_setup, ht]
            · rw [run_command_setup, run_command_setup, hs, ht]
              rfl
        | ok u =>
            exact ⟨_, fun k hk => extended_of_le hk, h.opened ha hc hroom⟩
    | _ => exact hasks.elim
  · exact hsame (h.silent hasks)

end Mirrors

end Stage

end Mosaic
