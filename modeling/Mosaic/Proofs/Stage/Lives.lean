import Mosaic.Proofs.Stage.Mirror

/-!
# The lives of a canvas

A canvas may be set up many times, and its storage is the same in all its lives. Nothing of a life
is left in the next one: whatever was done to a canvas before, once it is set up anew it answers as
a new canvas does. Where the new canvas is on the device that the old one left, nothing at all
differs; on a recorder of its own only the numbers of its resources do.
-/

namespace Mosaic

namespace Stage

/-! ### Operations one after the other -/

section Operations

variable {δ : Type} [Device δ]

/-- What operations answer, one after the other. -/
def replies (stage : Stage δ) : List Operation → List (Except Fault Reply)
  | [] => []
  | op :: ops => (op.run.run stage).result :: replies (op.run.run stage).state ops

/-- The stage after operations. -/
def played (stage : Stage δ) : List Operation → Stage δ
  | [] => stage
  | op :: ops => played (op.run.run stage).state ops

/-- The calls that operations make. -/
def asked (stage : Stage δ) : List Operation → List DeviceCall
  | [] => []
  | op :: ops => stage.calls op ++ asked (op.run.run stage).state ops

/-- On devices in the same state operations come to the same. -/
theorem Alike.played {s t : Stage δ} (h : Alike s t) (ops : List Operation) :
    t.replies ops = s.replies ops ∧ Alike (s.played ops) (t.played ops) := by
  induction ops generalizing s t with
  | nil => exact ⟨rfl, h⟩
  | cons op ops ih =>
      obtain ⟨hresult, hstate⟩ := alike_operation op s t h
      obtain ⟨hreplies, hplayed⟩ := ih hstate
      exact ⟨congrArg₂ List.cons hresult.symm hreplies, hplayed⟩

end Operations

/-- Operations sound the same on a stage that mirrors another, as long as numbers last. -/
theorem Mirrors.heard {f : Nat → Nat} {s t : Stage Recorder} (h : Mirrors f s t)
    (ops : List Operation)
    (hroom : t.device.lastId + (t.asked ops).countP DeviceCall.spends <
      Bounded.Width.bits32.count) :
    ∃ g, (∀ k ≤ s.device.lastId, g k = f k) ∧ StrictMono g ∧
      t.heard ops = (s.heard ops).map (Heard.rename g) := by
  induction ops generalizing f s t with
  | nil => exact ⟨f, fun _ _ => rfl, h.strictMono, rfl⟩
  | cons op ops ih =>
      rw [asked, List.countP_append] at hroom
      obtain ⟨g, hg, hechoes⟩ := h.operation op (by omega)
      have hlast := (serves_calls op t).lastId_le_add
      obtain ⟨g', hg', hmono, hops⟩ := ih hechoes.mirrors (by omega)
      refine ⟨g', fun k hk => ?_, hmono, ?_⟩
      · rw [hg' k (Nat.le_trans hk (lastId_le_operation op s)), hg k hk]
      · rw [Stage.heard, Stage.heard, List.map_cons, hops, hechoes.heard,
          hechoes.below.rename_congr hg']

/-! ### A life anew -/

/-- A canvas that was set up on a recorder mirrors a new one, on a recorder of its own. -/
theorem mirrors_of_setup {t : Stage Recorder} (hsound : t.canvas.Sound)
    (hunset : t.canvas.active = none) {c : Config}
    (hok : ((setup c).run t).result = .ok (.ok ())) :
    let s := fresh t.canvas.sheet Recorder.fresh
    ((setup c).run s).result = .ok (.ok ()) ∧
      ∃ f, Mirrors f ((setup c).run s).state ((setup c).run t).state := by
  intro s
  have hroom : s.device.lastId + 4 < Bounded.Width.bits32.count := by
    change 0 + 4 < Bounded.Width.bits32.count
    decide
  cases hc : c.validate with
  | error e =>
      rw [run_setup_of_invalid hunset hc] at hok
      cases hok
  | ok u =>
  obtain ⟨hreliable, hacquire⟩ | ⟨-, hrefused⟩ | ⟨-, fault, r', hacquire⟩ :=
    ResourceSet.acquire_cases byteSize_meshLayout t.canvas.sheet.image t.device
  · obtain ⟨line, ht⟩ := run_setup_of_made hunset hc hacquire
    obtain ⟨line', hs⟩ := run_setup_of_room (s := s) rfl hc rfl hroom
    rw [hs, ht]
    refine ⟨rfl, fun k => t.device.lastId + k, ?_⟩
    exact mirrors_opened hc rfl (Canvas.sound_fresh _) hsound rfl hreliable
      (fun i j hij => Nat.add_lt_add_left hij _) rfl
  · rcases hacquire : (ResourceSet.acquire meshLayout t.canvas.sheet.image).run t.device
      with ⟨fault | e | set, r', notes⟩
    · rw [run_setup_of_fault hunset hc hacquire] at hok
      cases hok
    · rw [run_setup_of_refused hunset hc hacquire] at hok
      cases hok
    · rw [hacquire] at hrefused
      exact absurd rfl (hrefused set)
  · rw [run_setup_of_fault hunset hc hacquire] at hok
    cases hok

/-- Nothing of the earlier lives of a canvas is left when it is set up. Whatever happened on a stage
up to a state in which the canvas is not set up, if it can be set up there, then so can a new canvas
with its sheet in its place, and from then on the same operations answer the same, with the same
vertices listed, and leave the device in the same state. On a recorder of its own the new canvas can
be set up as well, and as long as numbers last the same operations answer the same and submit draws
of the same vertices, but for the numbers of the resources. -/
theorem lives_are_separate :
    (∀ {δ : Type} [Device δ] (sheet : Sheet) (device : δ) (history : List (Event δ))
        (old : Stage δ), (fresh sheet device).after history = old → ¬ old.canvas.isValid →
      ∀ c, ((setup c).run old).result = .ok (.ok ()) →
        let new := fresh sheet old.device
        ((setup c).run new).result = .ok (.ok ()) ∧ ∀ ops,
          let again := ((setup c).run old).state
          let first := ((setup c).run new).state
          again.replies ops = first.replies ops ∧
            (again.played ops).device = (first.played ops).device ∧
            (again.played ops).canvas.vertices = (first.played ops).canvas.vertices ∧
            (again.played ops).canvas.vertexCount = (first.played ops).canvas.vertexCount) ∧
      ∀ (sheet : Sheet) (recorder : Recorder) (history : List (Event Recorder))
        (old : Stage Recorder), (fresh sheet recorder).after history = old →
          ¬ old.canvas.isValid → ∀ c, ((setup c).run old).result = .ok (.ok ()) →
        let new := fresh sheet Recorder.fresh
        ((setup c).run new).result = .ok (.ok ()) ∧ ∀ ops,
          let again := ((setup c).run old).state
          let first := ((setup c).run new).state
          again.device.lastId + (again.asked ops).countP DeviceCall.spends <
              Bounded.Width.bits32.count →
            ∃ f : Nat → Nat, Function.Injective f ∧
              again.heard ops = (first.heard ops).map (Heard.rename f) := by
  have hunset : ∀ {δ : Type} {stage : Stage δ}, ¬ stage.canvas.isValid →
      stage.canvas.active = none := fun h => by simpa [Canvas.isValid] using h
  constructor
  · intro δ _ sheet device history old hold hinvalid c hok
    have hsheet : old.canvas.sheet = sheet := hold ▸ sheet_after (fresh sheet device) history
    have hsound : old.canvas.Sound := hold ▸ sound_after sheet device history
    obtain ⟨hok', halike⟩ := setup_of_unset (s := fresh sheet old.device) rfl (hunset hinvalid)
      hsheet hsound.capacity rfl hok
    refine ⟨hok', fun ops => ?_⟩
    obtain ⟨hreplies, hcanvas, hdevice⟩ := halike.played ops
    exact ⟨hreplies, hdevice, hcanvas.vertices.symm, hcanvas.vertexCount.symm⟩
  · intro sheet recorder history old hold hinvalid c hok
    have hsheet : old.canvas.sheet = sheet := hold ▸ sheet_after (fresh sheet recorder) history
    have hsound : old.canvas.Sound := hold ▸ sound_after sheet recorder history
    obtain ⟨hok', f, hmirrors⟩ := mirrors_of_setup hsound (hunset hinvalid) hok
    rw [hsheet] at hok' hmirrors
    refine ⟨hok', fun ops hroom => ?_⟩
    obtain ⟨g, -, hmono, hheard⟩ := hmirrors.heard ops hroom
    exact ⟨g, hmono.injective, hheard⟩

/-- A life in which a text stops half way, and an attempt at another one that is undone. -/
def lastLife : List (Event Recorder) := strayRun ++ [
  .command .discard,
  .device (Recorder.failOn .texture),
  .command (.setup .standard)]

theorem lives_are_separate_lastLife :
    let c : Config := ⟨2, 3, 8, 8, 2⟩
    let old := (fresh straySheet Recorder.fresh).after lastLife
    let again := ((setup c).run old).state
    let first := ((setup c).run (fresh straySheet Recorder.fresh)).state
    let ops : List Operation := [.command .grid, .command (.copyText ⟨0, 1, 2, 2⟩ ['.', 'x', '.']),
      .command .render, .command .resources, .drop]
    (¬ old.canvas.isValid ∧ old.device.lastId = 7) ∧
      ∃ f : Nat → Nat, Function.Injective f ∧
        again.heard ops = (first.heard ops).map (Heard.rename f) := by
  intro c old again first ops
  have hinvalid : ¬ old.canvas.isValid := by decide +kernel
  have hok : ((setup c).run old).result = .ok (.ok ()) := by decide +kernel
  have hroom : ∀ stage, again = stage → stage.device.lastId +
      (stage.asked ops).countP DeviceCall.spends < Bounded.Width.bits32.count := by
    rintro _ rfl
    decide +kernel
  have hnumber : old.device.lastId = 7 := by decide +kernel
  obtain ⟨-, hheard⟩ := lives_are_separate.2 straySheet .fresh lastLife old rfl hinvalid c hok
  refine ⟨⟨hinvalid, hnumber⟩, hheard ops ?_⟩
  generalize hstage : ((setup c).run old).state = stage
  exact hroom stage hstage

end Stage

end Mosaic
