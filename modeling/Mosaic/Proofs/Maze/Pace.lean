import Mathlib.Algebra.GroupWithZero.Nat
import Mosaic.Proofs.Maze.Sync
import Mosaic.Proofs.Stage.Layout

/-!
# The pace of a game

A frame is as many ticks as its time makes up, at most `Game.maxTicks`, with the actors shown at the
end (`Game.run_frame`). What a row of frames comes to is therefore told by the number of ticks alone
(`Game.run_frames`), and as long as no frame reaches the bound that number depends only on the time
that has passed in all (`Game.ticksOver_of_uncapped`), not on how it was cut.
-/

namespace Mosaic

variable {ρ : Type}

/-- The world of a match with its canvas. -/
def Match.play (m : Match ρ) : Play ρ := ⟨m.game.world, m.canvas⟩

/-- The match of a play and the time that is not used yet. -/
def Play.toMatch (play : Play ρ) (pending : Nat) : Match ρ := ⟨⟨play.world, pending⟩, play.canvas⟩

namespace World

variable [RandomSource ρ]

/-- Ticks again and again. -/
def ticks : Nat → Action (Play ρ) Unit
  | 0 => return ()
  | n + 1 => do
    tick
    ticks n

theorem ticks_one : (ticks 1 : Action (Play ρ) Unit) = tick := by
  apply Action.ext_run
  intro play
  change (tick >>= fun _ => pure ()).run play = _
  rw [Action.run_bind_pure]
  rcases tick.run play with ⟨_ | u, next, notes⟩ <;> rfl

theorem ticks_add (n k : Nat) :
    (ticks (n + k) : Action (Play ρ) Unit) = ticks n >>= fun _ => ticks k := by
  induction n with
  | zero => rw [Nat.zero_add]; rfl
  | succ n ih => rw [Nat.add_right_comm, ticks, ticks, ih, Action.bind_assoc]

theorem matches_ticks (n : Nat) : Action.Matches (SamePlay (ρ := ρ)) (ticks n) (ticks n) := by
  induction n with
  | zero => exact Action.matches_pure ()
  | succ n ih => exact Action.matches_bind matches_tick fun _ => ih

theorem Staged.ticks {play : Play ρ} (h : Staged play) (n : Nat) :
    (((ticks n).run play).result = .ok () ∧ Staged ((ticks n).run play).state) ∨
      ((ticks n).run play).result = .error (.overflow .add) ∧
        Bounded.Width.bits32.count ≤ ((ticks n).run play).state.world.levelsCleared + 1 := by
  induction n generalizing play with
  | zero => exact .inl ⟨rfl, h⟩
  | succ n ih =>
      have htick := h.tick
      rw [World.ticks, Action.run_bind]
      generalize World.tick.run play = outcome at htick ⊢
      obtain ⟨result, next, notes⟩ := outcome
      obtain ⟨hok, hnext⟩ | ⟨hfault, hcount⟩ := htick
      · cases hok
        exact ih hnext
      · cases hfault
        exact .inr ⟨rfl, hcount⟩

end World

namespace Game

/-! ### The ticks of a frame -/

/-- The ticks of a frame after some time was left unused. -/
def ticksIn (pending elapsed : Nat) : Nat := min maxTicks ((pending + elapsed) / tickTime)

/-- The time that a frame leaves unused. -/
def leftBy (pending elapsed : Nat) : Nat :=
  if ticksIn pending elapsed = maxTicks then 0
  else pending + elapsed - ticksIn pending elapsed * tickTime

/-- The ticks of a row of frames. -/
def ticksOver : (pending : Nat) → List Nat → Nat
  | _, [] => 0
  | pending, elapsed :: rest => ticksIn pending elapsed + ticksOver (leftBy pending elapsed) rest

/-- The time that a row of frames leaves unused. -/
def leftOver : (pending : Nat) → List Nat → Nat
  | pending, [] => pending
  | pending, elapsed :: rest => leftOver (leftBy pending elapsed) rest

/-- No frame of a row reaches the bound. -/
def Uncapped : (pending : Nat) → List Nat → Prop
  | _, [] => True
  | pending, elapsed :: rest =>
    ticksIn pending elapsed < maxTicks ∧ Uncapped (leftBy pending elapsed) rest

instance decidableUncapped :
    (pending : Nat) → (elapsed : List Nat) → Decidable (Uncapped pending elapsed)
  | _, [] => inferInstanceAs (Decidable True)
  | pending, elapsed :: rest =>
    have := decidableUncapped (leftBy pending elapsed) rest
    inferInstanceAs (Decidable (_ ∧ _))

theorem leftBy_lt (pending elapsed : Nat) : leftBy pending elapsed < tickTime := by
  rw [leftBy]
  split
  · decide
  · rename_i hcap
    simp only [ticksIn, maxTicks, tickTime] at hcap ⊢
    omega

theorem leftBy_of_uncapped {pending elapsed : Nat} (h : ticksIn pending elapsed < maxTicks) :
    pending + elapsed = ticksIn pending elapsed * tickTime + leftBy pending elapsed := by
  rw [leftBy, if_neg (Nat.ne_of_lt h)]
  simp only [ticksIn, maxTicks, tickTime] at h ⊢
  omega

/-- The ticks of a row without bounds are those that its whole time makes up. -/
theorem ticksOver_of_uncapped {pending : Nat} {elapsed : List Nat} (h : Uncapped pending elapsed)
    (hpending : pending < tickTime) :
    ticksOver pending elapsed = (pending + elapsed.sum) / tickTime ∧
      leftOver pending elapsed = (pending + elapsed.sum) % tickTime := by
  induction elapsed generalizing pending with
  | nil =>
      rw [ticksOver, leftOver, List.sum_nil, Nat.add_zero]
      exact ⟨(Nat.div_eq_of_lt hpending).symm, (Nat.mod_eq_of_lt hpending).symm⟩
  | cons d rest ih =>
      obtain ⟨hd, hrest⟩ := h
      obtain ⟨hticks, hleft⟩ := ih hrest (leftBy_lt pending d)
      rw [ticksOver, leftOver, hticks, hleft, List.sum_cons, ← Nat.add_assoc,
        leftBy_of_uncapped hd, Nat.add_assoc, Nat.mul_add_mod_self_right, Nat.mul_comm,
        Nat.mul_add_div (by decide)]
      exact ⟨rfl, rfl⟩

/-! ### What frames come to -/

theorem run_onPlay (action : Action (Play ρ) Unit) (play : Play ρ) (pending : Nat) :
    (onPlay action).run (play.toMatch pending) =
      ⟨(action.run play).result, (action.run play).state.toMatch pending,
        (action.run play).notes⟩ := rfl

theorem run_setPending_bind {α : Type} (time : Nat) (next : Unit → Action (Match ρ) α)
    (play : Play ρ) (pending : Nat) :
    (setPending time >>= next).run (play.toMatch pending) = (next ()).run (play.toMatch time) := rfl

variable [RandomSource ρ]

/-- Frames one after the other. -/
def frames (elapsed : List Nat) : Action (Match ρ) Unit := Action.each frame elapsed

/-- A number of ticks, after which the actors are shown. -/
def ticksThenSync (n : Nat) : Action (Play ρ) Unit := do
  World.ticks n
  World.sync

theorem run_catchUp_of_lt {pending : Nat} (h : pending < tickTime) (left : Nat) (play : Play ρ) :
    (catchUp left).run (play.toMatch pending) = ⟨.ok 0, play.toMatch pending, []⟩ := by
  cases left with
  | zero => rfl
  | succ left =>
      have htime : ¬ tickTime ≤ (play.toMatch pending).game.pending := Nat.not_le.2 h
      rw [catchUp, Action.run_get_bind, if_neg htime]
      rfl

theorem run_catchUp_of_le {pending : Nat} (h : tickTime ≤ pending) (left : Nat) (play : Play ρ) :
    (catchUp (left + 1)).run (play.toMatch pending) =
      (onPlay World.tick >>= fun _ => (· + 1) <$> catchUp left).run
        (play.toMatch (pending - tickTime)) := by
  have htime : tickTime ≤ (play.toMatch pending).game.pending := h
  rw [catchUp, Action.run_get_bind, if_pos htime, run_setPending_bind]
  rfl

/-- Catching up is as many ticks as there is time for, and each uses its time. -/
theorem run_catchUp {left n pending : Nat} (hn : n = min left (pending / tickTime))
    (play : Play ρ) :
    ∃ rest, (catchUp left).run (play.toMatch pending) =
        ⟨(fun _ => n) <$> ((World.ticks n).run play).result,
          ((World.ticks n).run play).state.toMatch rest, ((World.ticks n).run play).notes⟩ ∧
      (((World.ticks n).run play).result = .ok () → rest = pending - n * tickTime) := by
  induction left generalizing play pending n with
  | zero =>
      rw [Nat.zero_min] at hn
      subst hn
      exact ⟨pending, rfl, fun _ => by rw [Nat.zero_mul, Nat.sub_zero]⟩
  | succ left ih =>
      by_cases htime : tickTime ≤ pending
      · obtain ⟨k, rfl, hk⟩ : ∃ k, n = k + 1 ∧ k = min left ((pending - tickTime) / tickTime) := by
          refine ⟨_, ?_, rfl⟩
          simp only [tickTime] at hn htime ⊢
          omega
        have htick := run_onPlay World.tick play (pending - tickTime)
        rw [run_catchUp_of_le htime, World.ticks]
        cases houtcome : World.tick.run play with
        | mk result next notes =>
        rw [houtcome] at htick
        cases result with
        | error fault =>
            rw [Action.run_bind_of_error htick, Action.run_bind_of_error houtcome]
            exact ⟨pending - tickTime, rfl, fun h => by cases h⟩
        | ok u =>
            obtain ⟨rest, hrun, hrest⟩ := ih hk next
            rw [Action.run_bind_of_ok htick, Action.run_bind_of_ok houtcome, Action.run_map, hrun]
            refine ⟨rest, ?_, fun h => ?_⟩
            · cases ((World.ticks k).run next).result <;> rfl
            · rw [hrest h, Nat.add_mul, Nat.one_mul, Nat.sub_sub, Nat.add_comm]
      · have hzero : n = 0 := by
          simp only [tickTime] at hn htime
          omega
        subst hzero
        rw [run_catchUp_of_lt (Nat.not_le.1 htime)]
        exact ⟨pending, rfl, fun _ => by rw [Nat.zero_mul, Nat.sub_zero]⟩

/-- A frame is the ticks that its time makes up, after which the actors are shown. -/
theorem run_frame (elapsed pending : Nat) (play : Play ρ) :
    ∃ rest, (frame elapsed).run (play.toMatch pending) =
        ⟨((ticksThenSync (ticksIn pending elapsed)).run play).result,
          ((ticksThenSync (ticksIn pending elapsed)).run play).state.toMatch rest,
          ((ticksThenSync (ticksIn pending elapsed)).run play).notes⟩ ∧
      (((ticksThenSync (ticksIn pending elapsed)).run play).result = .ok () →
        rest = leftBy pending elapsed) := by
  have hticks : ticksIn pending elapsed = min maxTicks ((pending + elapsed) / tickTime) := rfl
  obtain ⟨rest, hrun, hrest⟩ := run_catchUp hticks play
  have hopen : (frame elapsed).run (play.toMatch pending) =
      (catchUp maxTicks >>= fun ticks => do
        if ticks = maxTicks then setPending 0
        onPlay World.sync).run (play.toMatch (pending + elapsed)) := rfl
  rw [hopen, ticksThenSync]
  cases houtcome : (World.ticks (ticksIn pending elapsed)).run play with
  | mk result next notes =>
  rw [houtcome] at hrun hrest
  cases result with
  | error fault =>
      rw [Action.run_bind_of_error houtcome]
      change (catchUp maxTicks).run _ = ⟨.error fault, next.toMatch rest, notes⟩ at hrun
      rw [Action.run_bind_of_error hrun]
      exact ⟨rest, rfl, fun h => by cases h⟩
  | ok u =>
      rw [Action.run_bind_of_ok houtcome]
      change (catchUp maxTicks).run _ = ⟨.ok (ticksIn pending elapsed), next.toMatch rest, notes⟩
        at hrun
      rw [Action.run_bind_of_ok hrun]
      refine ⟨leftBy pending elapsed, ?_, fun _ => rfl⟩
      rw [hrest rfl, leftBy]
      split
      · rw [run_setPending_bind, run_onPlay]
      · rw [run_onPlay]

end Game

namespace Game

variable [RandomSource ρ]

/-- Ticks from a staged play, with the actors shown at the end. -/
theorem run_ticksThenSync {play : Play ρ} (h : World.Staged play) (n : Nat) :
    (∃ next notes, World.Staged next ∧ (World.ticks n).run play = ⟨.ok (), next, notes⟩ ∧
        (ticksThenSync n).run play = ⟨.ok (), World.synced next, notes⟩) ∨
      ∃ next notes, Bounded.Width.bits32.count ≤ next.world.levelsCleared + 1 ∧
        (World.ticks n).run play = ⟨.error (.overflow .add), next, notes⟩ ∧
        (ticksThenSync n).run play = ⟨.error (.overflow .add), next, notes⟩ := by
  have hticks := h.ticks n
  rw [ticksThenSync]
  cases houtcome : (World.ticks n).run play with
  | mk result next notes =>
  rw [houtcome] at hticks
  obtain ⟨hok, hnext⟩ | ⟨hfault, hcount⟩ := hticks
  · left
    cases hok
    rw [Action.run_bind_of_ok houtcome, hnext.run_sync, List.append_nil]
    exact ⟨next, notes, hnext, rfl, rfl⟩
  · right
    cases hfault
    rw [Action.run_bind_of_error houtcome]
    exact ⟨next, notes, hcount, rfl, rfl⟩

/-- A row of frames comes to the same as the ticks of all its frames, after which the actors are
shown once. -/
theorem run_frames {play : Play ρ} (h : World.Staged play) (hshown : World.synced play = play)
    (pending : Nat) (elapsed : List Nat) :
    ((frames elapsed).run (play.toMatch pending)).result =
        ((World.ticks (ticksOver pending elapsed)).run play).result ∧
      (((World.ticks (ticksOver pending elapsed)).run play).result = .ok () →
        ((frames elapsed).run (play.toMatch pending)).state =
          (World.synced ((World.ticks (ticksOver pending elapsed)).run play).state).toMatch
            (leftOver pending elapsed)) := by
  induction elapsed generalizing play pending with
  | nil =>
      refine ⟨rfl, fun _ => ?_⟩
      change play.toMatch pending = (World.synced play).toMatch pending
      rw [hshown]
  | cons d rest ih =>
      obtain ⟨left, hframe, hleft⟩ := run_frame d pending play
      rw [frames, Action.each_cons, ticksOver, leftOver, World.ticks_add]
      obtain ⟨next, notes, hnext, hticks, hrun⟩ | ⟨next, notes, -, hticks, hrun⟩ :=
        run_ticksThenSync h (ticksIn pending d)
      · rw [hrun] at hframe hleft
        rw [hleft rfl] at hframe
        rw [Action.run_bind_of_ok hframe, Action.run_bind_of_ok hticks]
        have hagain := World.synced_of_samePlay (World.samePlay_synced next)
        obtain ⟨hresult, hstate⟩ := ih hnext.synced hagain (leftBy pending d)
        -- the frames after this one start with the actors shown, the ticks without
        obtain ⟨hresult', hstate'⟩ := World.matches_ticks
          (ticksOver (leftBy pending d) rest) next _ (World.samePlay_synced next)
        rw [← hresult', World.synced_of_samePlay hstate'] at hstate
        exact ⟨hresult.trans hresult'.symm, hstate⟩
      · rw [hrun] at hframe
        rw [Action.run_bind_of_error hframe, Action.run_bind_of_error hticks]
        exact ⟨rfl, fun hok => by cases hok⟩

end Game

end Mosaic
