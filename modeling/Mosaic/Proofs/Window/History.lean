import Mosaic.Proofs.Window.Opening
import Mosaic.Proofs.Window.Redraw

/-!
# The history of an application

A history is a list of events, latest first, each with whether the window was open before and after
it. It says what the scene was asked so far (`History.calls`): to start whenever the window was
opened, and for a picture at each redraw of an open window, with the time since the redraw of an
open window before. An application that is reached by events agrees with its history
(`App.Reached.agrees`): what one answered event does to it (`App.Moves`) is what it adds to the
history.
-/

namespace Mosaic

/-- An event that was answered, and whether the window was open before and after it. -/
structure Beat where
  event : WindowEvent
  before : Bool
  after : Bool
  deriving DecidableEq

namespace History

/-- The time since the last redraw of an open window, if there was one. -/
def sinceFrame : List Beat → Option Nat
  | [] => none
  | beat :: past =>
    match beat.event with
    | .redraw elapsed =>
      if beat.before then some 0 else (sinceFrame past).map fun time => time + elapsed
    | _ => sinceFrame past

/-- The time from the last redraw of an open window to one that comes `elapsed` later than the
history; none before the first. -/
def passed (past : List Beat) (elapsed : Nat) : Nat :=
  match sinceFrame past with
  | some time => time + elapsed
  | none => 0

/-- What the scene was asked, latest first. -/
def calls : List Beat → List SceneCall
  | [] => []
  | beat :: past =>
    match beat.event with
    | .resumed => if !beat.before && beat.after then .start :: calls past else calls past
    | .redraw elapsed => if beat.before then .frame (passed past elapsed) :: calls past else calls past
    | _ => calls past

/-- While the window stays open the scene is asked for pictures alone. -/
theorem calls_append_of_open {later : List Beat} (h : ∀ beat ∈ later, beat.before)
    (past : List Beat) : ∃ times : List Nat, calls (later ++ past) = times.map .frame ++ calls past := by
  induction later with
  | nil => exact ⟨[], rfl⟩
  | cons beat later ih =>
      obtain ⟨times, htimes⟩ := ih fun b hb => h b (List.mem_cons_of_mem _ hb)
      have hbefore := h beat List.mem_cons_self
      rw [List.cons_append, calls, htimes, hbefore]
      cases beat.event with
      | redraw elapsed => exact ⟨passed (later ++ past) elapsed :: times, rfl⟩
      | _ => exact ⟨times, rfl⟩

end History

namespace App

variable {α : Type} {scene : Scene α} {options : WindowOptions}

/-- What an answered event does to an application whose scene lists its calls. -/
inductive Moves (app : App (Observed α)) : WindowEvent → App (Observed α) → Prop where
  /-- The window was opened. -/
  | opened (hclosed : app.live = none) (state : α) (live : Live) (h : live.stage.Equipped) :
      Moves app .resumed { app with scene := ⟨state, .start :: app.scene.calls⟩, live := some live }
  /-- The scene of the open window was asked for a picture. -/
  | asked (time : Nat) (live : Live) (hlive : app.live = some live) (state : α)
      (stage : Stage GpuDevice) (h : stage.Equipped) (frames : List (Option FrameError))
      (ending : Bool) :
      Moves app (.redraw time)
        { app with
          scene := ⟨state, .frame (elapsed { app with clock := app.clock + time }) :: app.scene.calls⟩
          live := some ⟨stage, live.surface⟩
          clock := app.clock + time
          lastFrame := some (app.clock + time)
          frames := frames
          ending := ending }
  /-- Time passed while the window was not open. -/
  | passed (time : Nat) (hclosed : app.live = none) :
      Moves app (.redraw time) { app with clock := app.clock + time }
  /-- Neither was the scene asked nor did the window open. -/
  | still (event : WindowEvent) (app' : App (Observed α)) (hevent : ∀ time, event ≠ .redraw time)
      (hcalls : app'.scene.calls = app.scene.calls) (hclock : app'.clock = app.clock)
      (hlast : app'.lastFrame = app.lastFrame)
      (hstage : ∀ live', app'.live = some live' →
        ∃ live, app.live = some live ∧ live'.stage = live.stage) :
      Moves app event app'

theorem run_deliver (scene : Scene α) (options : WindowOptions) (platform : Platform)
    (event : WindowEvent) (app : App α) :
    (deliver scene options platform event).run app =
      ⟨((handle scene options platform event).run app).result,
        ((handle scene options platform event).run app).state,
        .window (.event event) :: ((handle scene options platform event).run app).notes⟩ := rfl

theorem run_resize_of_closed {app : App α} (hlive : app.live = none) (width height : Nat) :
    (resize width height).run app = ⟨.ok (), app, []⟩ := by
  rw [resize, Action.run_get_bind, hlive]
  rfl

theorem run_resize_of_open {app : App α} {live : Live} (hlive : app.live = some live)
    (width height : Nat) :
    let surface := { live.surface with width := max 1 width, height := max 1 height }
    (resize width height).run app =
      ⟨.ok (), { app with live := some { live with surface := surface } },
        [.window (.configure surface), .window .requestRedraw]⟩ := by
  rw [resize, Action.run_get_bind, hlive]
  rfl

theorem run_giveBack_of_closed {app : App α} (hlive : app.live = none)
    (last : Action (Stage GpuDevice) Unit) : (giveBack last).run app = ⟨.ok (), app, []⟩ := by
  rw [giveBack, Action.run_get_bind, hlive]
  rfl

/-- What the window held is given back without the scene. -/
theorem run_giveBack_of_open {app : App α} {last : Action (Stage GpuDevice) Unit} {live : Live}
    (hlive : app.live = some live) (hok : ((giveBack last).run app).result = .ok ()) :
    ∃ notes, (giveBack last).run app =
      ⟨.ok (), { app with live := none }, notes ++ [.window .dropSurface, .window .dropWindow]⟩ := by
  rw [giveBack, Action.run_get_bind, hlive] at hok ⊢
  rcases hrun : (Shown.onStage last).run (⟨app.scene, live.stage⟩ : Shown α) with
    ⟨fault | u, shown, notes⟩
  · rw [Action.run_bind_of_error (run_onShown hrun)] at hok
    cases hok
  · have hscene : shown.scene = app.scene := (congrArg (fun o => o.state.scene) hrun).symm
    rw [Action.run_bind_of_ok (run_onShown hrun), hscene]
    exact ⟨notes, rfl⟩

theorem moves_resize (app : App (Observed α)) (width height : Nat) :
    Moves app (.resized width height) ((resize width height).run app).state := by
  cases hlive : app.live with
  | none =>
      rw [run_resize_of_closed hlive]
      exact .still _ _ nofun rfl rfl rfl fun live h => ⟨live, h, rfl⟩
  | some live =>
      rw [run_resize_of_open hlive]
      refine .still _ _ nofun rfl rfl rfl fun live' h => ⟨live, hlive, ?_⟩
      cases h
      rfl

theorem moves_giveBack {app : App (Observed α)} {last : Action (Stage GpuDevice) Unit}
    (hok : ((giveBack last).run app).result = .ok ()) :
    Moves app .exiting ((giveBack last).run app).state := by
  cases hlive : app.live with
  | none =>
      rw [run_giveBack_of_closed hlive]
      exact .still _ _ nofun rfl rfl rfl fun live h => ⟨live, h, rfl⟩
  | some live =>
      obtain ⟨notes, hrun⟩ := run_giveBack_of_open hlive hok
      rw [hrun]
      exact .still _ _ nofun rfl rfl rfl nofun

/-- What an event that is answered does. -/
theorem moves_deliver (hscene : scene.Modest) {app : App (Observed α)}
    (hequipped : ∀ live, app.live = some live → live.stage.Equipped) {platform : Platform}
    {event : WindowEvent}
    (hok : ((deliver scene.observed options platform event).run app).result = .ok ()) :
    Moves app event ((deliver scene.observed options platform event).run app).state := by
  rw [run_deliver] at hok ⊢
  dsimp only at hok ⊢
  cases event with
  | resumed =>
      obtain ⟨hopen, hclosed⟩ := answers_resume hscene options platform app () hok
      change Moves app _ ((resume scene.observed options platform).run app).state
      generalize ((resume scene.observed options platform).run app).state = app' at hopen hclosed ⊢
      cases hlive : app.live with
      | some live =>
          obtain rfl := hopen (by rw [hlive]; rfl)
          exact .still _ _ nofun rfl rfl rfl fun live h => ⟨live, h, rfl⟩
      | none =>
          obtain ⟨state, live, h⟩ | ⟨e, state⟩ := hclosed hlive
          · exact .opened hlive state live h
          · exact .still _ _ nofun rfl rfl rfl fun live h => ⟨live, h, rfl⟩
  | redraw time =>
      let now : App (Observed α) := { app with clock := app.clock + time }
      change ((redraw scene.observed options).run now).result = _ at hok
      change Moves app _ ((redraw scene.observed options).run now).state
      cases hlive : app.live with
      | none =>
          have hclosed : now.live = none := hlive
          rw [run_redraw_of_closed hclosed]
          exact .passed time hlive
      | some live =>
          have hopen : now.live = some live := hlive
          obtain ⟨stage, frames, ending, hstate, hstage⟩ :=
            redraw_of_open hscene.observed options hopen (hequipped live hlive)
          rw [hstate]
          exact .asked time live hlive _ stage (hstage hok) frames ending
  | resized width height => exact moves_resize app width height
  | close | focused | destroyed =>
      exact .still _ _ nofun rfl rfl rfl fun live h => ⟨live, h, rfl⟩
  | exiting => exact moves_giveBack hok

/-- The application agrees with a history: its scene was asked what the history says, it has the same
time since the last picture, and when its window is open its stage is equipped and the history has
the event that opened it. -/
structure Agrees (past : List Beat) (app : App (Observed α)) : Prop where
  calls : app.scene.calls = History.calls past
  since : History.sinceFrame past = app.lastFrame.map fun time => app.clock - time
  le_clock : ∀ time, app.lastFrame = some time → time ≤ app.clock
  equipped : ∀ live, app.live = some live → live.stage.Equipped
  opening : ∀ live, app.live = some live → ∃ later earlier,
    past = later ++ ⟨.resumed, false, true⟩ :: earlier ∧ ∀ beat ∈ later, beat.before ∧ beat.after

theorem agrees_fresh (platform : Platform) (state : α) :
    Agrees [] (fresh platform (⟨state, []⟩ : Observed α)) where
  calls := rfl
  since := rfl
  le_clock _ h := by cases h
  equipped _ h := by cases h
  opening _ h := by cases h

section Agrees

variable {past : List Beat} {app app' : App (Observed α)}

/-- At a redraw the scene is passed the time that the history says. -/
theorem Agrees.elapsed_eq (h : Agrees past app) (time : Nat) :
    elapsed { app with clock := app.clock + time } = History.passed past time := by
  rw [History.passed, h.since, elapsed]
  cases hlast : app.lastFrame with
  | none => rfl
  | some last =>
      have hle := h.le_clock last hlast
      simp only [Option.map_some]
      omega

theorem Agrees.opened (h : Agrees past app) (hclosed : app.live = none) (state : α) {live : Live}
    (hlive : live.stage.Equipped) :
    Agrees (⟨.resumed, app.live.isSome, true⟩ :: past)
      { app with scene := ⟨state, .start :: app.scene.calls⟩, live := some live } := by
  rw [hclosed]
  exact {
    calls := congrArg (SceneCall.start :: ·) h.calls
    since := h.since
    le_clock := h.le_clock
    equipped := fun live' hlive' => by
      cases hlive'
      exact hlive
    opening := fun live' _ => ⟨[], past, rfl, nofun⟩ }

theorem Agrees.asked (h : Agrees past app) {time : Nat} {live : Live} (hlive : app.live = some live)
    (state : α) {stage : Stage GpuDevice} (hstage : stage.Equipped)
    (frames : List (Option FrameError)) (ending : Bool) :
    Agrees (⟨.redraw time, app.live.isSome, true⟩ :: past)
      { app with
        scene := ⟨state, .frame (elapsed { app with clock := app.clock + time }) :: app.scene.calls⟩
        live := some ⟨stage, live.surface⟩
        clock := app.clock + time
        lastFrame := some (app.clock + time)
        frames := frames
        ending := ending } := by
  obtain ⟨later, earlier, hpast, hlater⟩ := h.opening live hlive
  rw [hlive]
  exact {
    calls := congrArg₂ (fun t calls => SceneCall.frame t :: calls) (h.elapsed_eq time) h.calls
    since := congrArg some (Nat.sub_self _).symm
    le_clock := fun t ht => by
      cases ht
      exact Nat.le_refl _
    equipped := fun live' hlive' => by
      cases hlive'
      exact hstage
    opening := fun live' _ => by
      refine ⟨⟨.redraw time, true, true⟩ :: later, earlier, ?_, fun beat hbeat => ?_⟩
      · rw [hpast]
        rfl
      · obtain rfl | hbeat := List.mem_cons.1 hbeat
        · exact ⟨rfl, rfl⟩
        · exact hlater beat hbeat }

theorem Agrees.passed (h : Agrees past app) (time : Nat) (hclosed : app.live = none) :
    Agrees (⟨.redraw time, app.live.isSome, app.live.isSome⟩ :: past)
      { app with clock := app.clock + time } where
  calls := by
    rw [hclosed]
    exact h.calls
  since := by
    rw [hclosed, History.sinceFrame, h.since]
    cases hlast : app.lastFrame with
    | none => rfl
    | some last =>
        have hle := h.le_clock last hlast
        exact congrArg some (Nat.sub_add_comm hle).symm
  le_clock last hlast := Nat.le_trans (h.le_clock last hlast) (Nat.le_add_right _ _)
  equipped := h.equipped
  opening live hlive := by cases hclosed.symm.trans hlive

theorem Agrees.still (h : Agrees past app) {event : WindowEvent}
    (hevent : ∀ time, event ≠ .redraw time) (hcalls : app'.scene.calls = app.scene.calls)
    (hclock : app'.clock = app.clock) (hlast : app'.lastFrame = app.lastFrame)
    (hstage : ∀ live', app'.live = some live' →
      ∃ live, app.live = some live ∧ live'.stage = live.stage) :
    Agrees (⟨event, app.live.isSome, app'.live.isSome⟩ :: past) app' where
  calls := by
    rw [hcalls, h.calls]
    cases event with
    | redraw time => exact absurd rfl (hevent time)
    | resumed =>
        -- The window is not opened: when it is open, it was open before.
        cases hlive' : app'.live with
        | none => simp [History.calls]
        | some live' =>
            obtain ⟨live, hlive, -⟩ := hstage live' hlive'
            simp [History.calls, hlive]
    | _ => rfl
  since := by
    rw [hclock, hlast, ← h.since]
    cases event with
    | redraw time => exact absurd rfl (hevent time)
    | _ => rfl
  le_clock := by
    rw [hclock, hlast]
    exact h.le_clock
  equipped live' hlive' := by
    obtain ⟨live, hlive, hsame⟩ := hstage live' hlive'
    rw [hsame]
    exact h.equipped live hlive
  opening live' hlive' := by
    obtain ⟨live, hlive, -⟩ := hstage live' hlive'
    obtain ⟨later, earlier, hpast, hlater⟩ := h.opening live hlive
    refine ⟨⟨event, app.live.isSome, app'.live.isSome⟩ :: later, earlier, ?_, fun beat hbeat => ?_⟩
    · rw [hpast]
      rfl
    · obtain rfl | hbeat := List.mem_cons.1 hbeat
      · rw [hlive, hlive']
        exact ⟨rfl, rfl⟩
      · exact hlater beat hbeat

/-- What an event does to an application is what it adds to the history. -/
theorem Agrees.moves (h : Agrees past app) {event : WindowEvent} (hmoves : Moves app event app') :
    Agrees (⟨event, app.live.isSome, app'.live.isSome⟩ :: past) app' := by
  cases hmoves with
  | opened hclosed state live hlive => exact h.opened hclosed state hlive
  | asked time live hlive state stage hstage frames ending =>
      exact h.asked hlive state hstage frames ending
  | passed time hclosed => exact h.passed time hclosed
  | still _ _ hevent hcalls hclock hlast hstage => exact h.still hevent hcalls hclock hlast hstage

end Agrees

/-- The states of an application after events that were answered, each on a platform of its own, with
their history. -/
inductive Reached (scene : Scene α) (options : WindowOptions) (start : App α) :
    List Beat → App α → Prop where
  | start : Reached scene options start [] start
  | next {past : List Beat} {app : App α} (h : Reached scene options start past app)
      (platform : Platform) (event : WindowEvent)
      (hok : ((deliver scene options platform event).run app).result = .ok ()) :
      Reached scene options start
        (⟨event, app.live.isSome,
          ((deliver scene options platform event).run app).state.live.isSome⟩ :: past)
        ((deliver scene options platform event).run app).state

theorem Reached.agrees (hscene : scene.Modest) {platform : Platform} {state : α}
    {past : List Beat} {app : App (Observed α)}
    (h : Reached scene.observed options (fresh platform ⟨state, []⟩) past app) :
    Agrees past app := by
  induction h with
  | start => exact agrees_fresh platform state
  | next h platform event hok ih => exact ih.moves (moves_deliver hscene ih.equipped hok)

end App

end Mosaic
