import Mathlib.Logic.Function.Basic
import Mosaic.Proofs.Stage.Mirror
import Mosaic.Proofs.Stage.Ownership

/-!
# Several canvases on one recorder

An `Ensemble` is a family of canvases on one recorder, whose operations take turns. Each canvas sees
the others as callers of a recorder that it shares with them (`Ensemble.view`), so what is known of
shared recorders holds from the side of each. No canvas touches what another one made, hence none
loses anything to the others (`Concordant`), and what is heard of a canvas in an ensemble is what is
heard of it alone, but for the numbers of its resources.
-/

namespace Mosaic

open CallLog

/-- Canvases on one recorder. -/
structure Ensemble (ι : Type) where
  canvas : ι → Canvas
  recorder : Recorder
  /-- The calls to the recorder so far, with the canvas for which they were made. -/
  log : List (ι × DeviceCall)

namespace Ensemble

variable {ι : Type}

/-- New canvases on a new recorder. -/
def fresh (sheets : ι → Sheet) : Ensemble ι := ⟨fun i => .fresh (sheets i), .fresh, []⟩

/-- A canvas with the recorder. -/
def stage (e : Ensemble ι) (i : ι) : Stage Recorder := ⟨e.canvas i, e.recorder⟩

/-- The number of creations that were not refused. -/
def spent (e : Ensemble ι) : Nat := e.log.countP fun entry => entry.2.spends

/-- The operations of one canvas. -/
def part [DecidableEq ι] (i : ι) : List (ι × Stage.Operation) → List Stage.Operation
  | [] => []
  | turn :: turns => if turn.1 = i then turn.2 :: part i turns else part i turns

variable [DecidableEq ι]

/-- An operation of one of the canvases. -/
def perform (e : Ensemble ι) (turn : ι × Stage.Operation) : Ensemble ι :=
  let outcome := turn.2.run.run (e.stage turn.1)
  ⟨Function.update e.canvas turn.1 outcome.state.canvas, outcome.state.device,
    e.log ++ ((e.stage turn.1).calls turn.2).map fun call => (turn.1, call)⟩

/-- The ensemble after operations of its canvases. -/
def after (e : Ensemble ι) (turns : List (ι × Stage.Operation)) : Ensemble ι :=
  turns.foldl perform e

/-- What is heard of one of the canvases. -/
def heard (i : ι) (e : Ensemble ι) : List (ι × Stage.Operation) → List Stage.Heard
  | [] => []
  | turn :: turns =>
    if turn.1 = i then (e.stage i).hear turn.2 :: heard i (e.perform turn) turns
    else heard i (e.perform turn) turns

/-- The ensemble from the side of one canvas. -/
def view (e : Ensemble ι) (i : ι) : Shared :=
  ⟨e.stage i, e.log.map fun entry => (if entry.1 = i then .canvas else .others, entry.2)⟩

variable {e : Ensemble ι} {i j : ι}

/-! ### The sides of the canvases -/

theorem view_perform_self (e : Ensemble ι) (i : ι) (op : Stage.Operation) :
    (e.perform (i, op)).view i = Shared.Turn.apply (e.view i) (.canvas op) := by
  simp only [view, perform, stage, Function.update_self, List.map_append, List.map_map,
    Shared.Turn.apply, signed]
  refine congrArg₂ Shared.mk rfl (congrArg _ (List.map_congr_left fun call _ => ?_))
  simp

theorem view_perform_of_ne (h : i ≠ j) (e : Ensemble ι) (op : Stage.Operation) :
    (e.perform (j, op)).view i =
      ⟨{ e.stage i with device := (op.run.run (e.stage j)).state.device },
        (e.view i).log ++ signed .others ((e.stage j).calls op)⟩ := by
  simp only [view, perform, stage, Function.update_of_ne h, List.map_append, List.map_map, signed]
  refine congrArg (Shared.mk _) (congrArg _ (List.map_congr_left fun call _ => ?_))
  simp [h.symm]

/-- What one canvas made was made by one of the others, from the side of any other. -/
theorem made_others_of_ne (h : i ≠ j) {ρ : Resource} (hρ : ρ ∈ made .canvas (e.view i).log) :
    ρ ∈ made .others (e.view j).log := by
  simp only [made, madeBy, callsOf, view, List.filter_map, List.map_map, List.mem_filterMap,
    List.mem_map, List.mem_filter, Function.comp_apply] at hρ ⊢
  obtain ⟨call, ⟨entry, ⟨hentry, hi⟩, rfl⟩, hmade⟩ := hρ
  refine ⟨_, ⟨entry, ⟨hentry, ?_⟩, rfl⟩, hmade⟩
  have hentry : entry.1 = i := by
    by_contra hne
    simp [hne] at hi
  simp [hentry, h]

theorem spent_view (e : Ensemble ι) (i : ι) : CallLog.spent (e.view i).log = e.spent := by
  rw [CallLog.spent, view, List.countP_map, spent]
  rfl

/-- From every side the recorder is accounted for and nothing was lost. -/
structure Concordant (e : Ensemble ι) : Prop where
  accounted : ∀ i, (e.view i).Accounted
  lossless : ∀ i ρ, ¬ Lost (e.view i).log ρ

theorem concordant_fresh (sheets : ι → Sheet) : (fresh sheets).Concordant where
  accounted i := Shared.accounted_fresh (sheets i)
  lossless i ρ := by
    rintro ⟨before, call, after, hlog, -⟩
    cases before <;> cases hlog

theorem Concordant.perform (h : e.Concordant) (turn : ι × Stage.Operation) :
    (e.perform turn).Concordant := by
  obtain ⟨j, op⟩ := turn
  refine ⟨fun i => ?_, fun i ρ hlost => ?_⟩
  · by_cases hi : i = j
    · subst hi
      rw [view_perform_self]
      exact Shared.accounted_canvas (h.accounted i) op
    · rw [view_perform_of_ne hi]
      exact (h.accounted i).of_others (Stage.serves_calls op (e.stage j))
  · by_cases hi : i = j
    · subst hi
      rw [view_perform_self] at hlost
      obtain hbefore | ⟨hwho, -⟩ := lost_append_signed hlost
      · exact h.lossless i ρ hbefore
      · cases hwho
    · rw [view_perform_of_ne hi] at hlost
      obtain hbefore | ⟨-, hmade, call, hcall, hdestroy⟩ := lost_append_signed hlost
      · exact h.lossless i ρ hbefore
      · refine (h.accounted j).not_touches op (made_others_of_ne hi hmade) call hcall ?_
        rw [hdestroy]
        exact rfl

/-- The recorder has what each canvas holds. -/
theorem Concordant.backs (h : e.Concordant) {a : Active} (ha : (e.canvas i).active = some a) :
    e.recorder.Backs a.resources :=
  (h.accounted i).backs ha (h.lossless i _) (h.lossless i _) (h.lossless i _)

theorem Concordant.lastId_le (h : e.Concordant) (i : ι) : e.recorder.lastId ≤ e.spent := by
  rw [← spent_view e i]
  exact (h.accounted i).spent

theorem spent_perform (e : Ensemble ι) (turn : ι × Stage.Operation) :
    (e.perform turn).spent =
      e.spent + ((e.stage turn.1).calls turn.2).countP DeviceCall.spends := by
  rw [spent, perform, List.countP_append, List.countP_map, spent]
  rfl

theorem spent_le_after (e : Ensemble ι) (turns : List (ι × Stage.Operation)) :
    e.spent ≤ (e.after turns).spent := by
  induction turns generalizing e with
  | nil => exact Nat.le_refl _
  | cons turn turns ih =>
      refine Nat.le_trans ?_ (ih (e.perform turn))
      rw [spent_perform]
      exact Nat.le_add_right _ _

/-! ### One canvas in the ensemble and alone -/

variable {f : Nat → Nat} {s : Stage Recorder}

/-- An operation of another canvas goes unnoticed. -/
theorem mirrors_perform_of_ne (he : e.Concordant) (h : s.Mirrors f (e.stage i)) (hne : i ≠ j)
    (op : Stage.Operation) : s.Mirrors f ((e.perform (j, op)).stage i) := by
  have hcanvas : (e.perform (j, op)).canvas i = e.canvas i := Function.update_of_ne hne _ _
  have hserves := Stage.serves_calls op (e.stage j)
  refine { h with akin := ?_, sound' := ?_, reliable' := ?_, lastId := ?_, backs := ?_ }
  · rw [stage, hcanvas]
    exact h.akin
  · rw [stage, hcanvas]
    exact h.sound'
  · exact Stage.reliable_operation op (e.stage j) h.reliable'
  · exact Nat.le_trans h.lastId hserves.lastId_le
  · intro a ha
    have hactive : ((e.perform (j, op)).canvas i).active = some (a.rename f) := by
      rw [hcanvas]
      exact h.active ha
    exact ⟨(h.backs a ha).1, (he.perform (j, op)).backs hactive⟩

theorem stage_perform_self (e : Ensemble ι) (i : ι) (op : Stage.Operation) :
    (e.perform (i, op)).stage i = (op.run.run (e.stage i)).state :=
  congrArg₂ Stage.mk (Function.update_self _ _ _) rfl

/-- What is heard of a canvas in an ensemble is what is heard of it on a recorder of its own, as
long as numbers last. -/
theorem heard_of_mirrors (he : e.Concordant) (h : s.Mirrors f (e.stage i))
    (turns : List (ι × Stage.Operation))
    (hspent : (e.after turns).spent < Bounded.Width.bits32.count) :
    ∃ g, (∀ k ≤ s.device.lastId, g k = f k) ∧ StrictMono g ∧
      e.heard i turns = (s.heard (part i turns)).map (Stage.Heard.rename g) := by
  induction turns generalizing e f s with
  | nil => exact ⟨f, fun _ _ => rfl, h.strictMono, rfl⟩
  | cons turn turns ih =>
      obtain ⟨j, op⟩ := turn
      have hle := spent_le_after (e.perform (j, op)) turns
      by_cases hj : j = i
      · subst hj
        have hroom : e.recorder.lastId + ((e.stage j).calls op).countP DeviceCall.spends <
            Bounded.Width.bits32.count := by
          have hlast := he.lastId_le j
          rw [spent_perform] at hle
          exact Nat.lt_of_le_of_lt (Nat.le_trans (Nat.add_le_add_right hlast _) hle) hspent
        obtain ⟨g, hg, hechoes⟩ := h.operation op hroom
        have hmirrors := hechoes.mirrors
        rw [← stage_perform_self] at hmirrors
        obtain ⟨g', hg', hmono, hturns⟩ := ih (he.perform (j, op)) hmirrors hspent
        refine ⟨g', fun k hk => ?_, hmono, ?_⟩
        · rw [hg' k (Nat.le_trans hk (Stage.lastId_le_operation op s)), hg k hk]
        · rw [heard, part, if_pos rfl, if_pos rfl, Stage.heard, List.map_cons, hturns,
            hechoes.heard, hechoes.below.rename_congr hg']
      · obtain ⟨g, hg, hmono, hturns⟩ := ih (he.perform (j, op))
          (mirrors_perform_of_ne he h (Ne.symm hj) op) hspent
        refine ⟨g, hg, hmono, ?_⟩
        rw [heard, part, if_neg hj, if_neg hj, hturns]

omit [DecidableEq ι] in
/-- A new canvas mirrors itself, beside others or not. -/
theorem mirrors_fresh (sheets : ι → Sheet) (i : ι) :
    Stage.Mirrors id (Stage.fresh (sheets i) .fresh) ((fresh sheets).stage i) where
  akin := ⟨rfl, rfl, rfl, rfl, Arena.alike_self (Canvas.sound_fresh (sheets i)).whole.wellFormed⟩
  sound := Canvas.sound_fresh _
  sound' := Canvas.sound_fresh _
  reliable := rfl
  reliable' := rfl
  strictMono := strictMono_id
  lastId := Nat.le_refl _
  below _ h := nomatch h
  backs _ h := nomatch h

/-- Canvases on one recorder do not interfere. Whatever operations of any of them take turns in
whatever order, if fewer creations were made than there are numbers, then each of them answers, and
submits draws of the same vertices, as it does when its operations run alone on a recorder of its
own, but for the numbers of the resources, which are translated one to one. -/
theorem canvases_do_not_interfere (sheets : ι → Sheet) (turns : List (ι × Stage.Operation))
    (hspent : ((fresh sheets).after turns).spent < Bounded.Width.bits32.count) (i : ι) :
    ∃ f : Nat → Nat, Function.Injective f ∧
      (fresh sheets).heard i turns =
        ((Stage.fresh (sheets i) .fresh).heard (part i turns)).map (Stage.Heard.rename f) := by
  obtain ⟨f, -, hmono, hheard⟩ :=
    heard_of_mirrors (concordant_fresh sheets) (mirrors_fresh sheets i) turns hspent
  exact ⟨f, hmono.injective, hheard⟩

/-- Two canvases that are set up and discarded in turns, one of them twice. -/
def duet : List (Bool × Stage.Operation) := [
  (true, .command (.setup ⟨3, 2, 8, 8, 1⟩)),
  (false, .command (.setup .standard)),
  (true, .command (.setTile (some ⟨0⟩) 2 1)),
  (false, .command (.setSprite 3 (some ⟨0⟩) ⟨4, 4, 16, 16⟩)),
  (true, .command .render),
  (false, .command .discard),
  (true, .command .render),
  (false, .command (.setup .standard)),
  (true, .drop),
  (false, .command .render)]

theorem canvases_do_not_interfere_duet :
    let sheets : Bool → Sheet := fun _ => Stage.straySheet
    ((fresh sheets).after duet).spent = 12 ∧ ∃ f : Nat → Nat, Function.Injective f ∧
      (fresh sheets).heard false duet =
        ((Stage.fresh Stage.straySheet .fresh).heard (part false duet)).map
          (Stage.Heard.rename f) := by
  intro sheets
  have hspent : ((fresh sheets).after duet).spent = 12 := by decide +kernel
  have hroom : ((fresh sheets).after duet).spent < Bounded.Width.bits32.count := by
    rw [hspent]
    decide
  exact ⟨hspent, canvases_do_not_interfere sheets duet hroom false⟩

end Ensemble

end Mosaic
