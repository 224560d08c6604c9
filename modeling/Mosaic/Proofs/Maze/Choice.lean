import Mosaic.Maze.World
import Mosaic.Proofs.Canvas.Ready
import Mosaic.Proofs.Maze.Corridor

/-!
# Choosing a direction

A direction is a `Candidate` for an actor when it does not lead back and leads to an open tile. Of
the candidates a hungry actor takes only those that lead to food, if one of them does; those that
are left are `Choosable`. The list that a number is drawn for holds the choosable directions, each
of them once (`World.mem_choices_iff`, `World.nodup_choices`). It is empty only in a dead end, where
no number is drawn (`World.run_chooseHeading_of_nil`).
-/

namespace Mosaic

namespace Actor

/-- The direction does not lead back, and the next tile in it is open. -/
def Candidate (a : Actor) (heading : Heading) : Prop :=
  heading ≠ a.heading.reverse ∧ Level.isOpen (a.neighbour heading) = true

instance (a : Actor) (heading : Heading) : Decidable (a.Candidate heading) :=
  inferInstanceAs (Decidable (_ ∧ _))

/-- The next tile in the direction is on the canvas and not empty. -/
def Fed (a : Actor) (canvas : Canvas) (heading : Heading) : Prop :=
  ∃ sprite, canvas.tile (a.neighbour heading).x (a.neighbour heading).y = .ok (some sprite)

/-- The direction is a candidate and, for the hungry, leads to food if some candidate does. -/
structure Choosable (a : Actor) (canvas : Canvas) (hungry : Bool) (heading : Heading) : Prop where
  candidate : a.Candidate heading
  fed : hungry = true → (∃ other, a.Candidate other ∧ a.Fed canvas other) → a.Fed canvas heading

theorem mem_ways_iff {a : Actor} {heading : Heading} : heading ∈ a.ways ↔ a.Candidate heading := by
  have hall : heading ∈ Heading.all := by cases heading <;> decide
  simp only [ways, List.mem_filter, hall, true_and, decide_eq_true_eq, Candidate]

theorem nodup_ways (a : Actor) : a.ways.Nodup := List.Nodup.filter _ (by decide)

/-- In a dead end the way back is open: an actor in a corridor has an open tile on some side. -/
theorem InCorridor.isOpen_reverse {a : Actor} (h : a.InCorridor)
    (hend : ¬ ∃ heading, a.Candidate heading) :
    Level.isOpen (a.neighbour a.heading.reverse) = true := by
  obtain ⟨heading, hopen⟩ := h.exists_open
  by_cases hback : heading = a.heading.reverse
  · exact hback ▸ hopen
  · exact absurd ⟨heading, hback, hopen⟩ hend

/-- A ghost that comes to the end of the corridor beside the door has to turn back. -/
example : (onTile Sprites.redGhost ⟨7, 7⟩ .right).ways = [] := by decide +kernel

end Actor

namespace World

variable {ρ : Type}

/-! ### Directions with food -/

/-- A tile next to an actor is on the canvas and not empty. -/
def feeds (canvas : Canvas) (c : Config) (p : Point) : Bool :=
  p ∈ (⟨0, 0, c.columns, c.rows⟩ : Rect) && (canvas.stored (c.index p.x p.y)).isSome

theorem filterAuxM_ok {α : Type} {question : α → Except Fault Bool} {answer : α → Bool}
    (h : ∀ a, question a = .ok (answer a)) (as acc : List α) :
    List.filterAuxM question as acc = .ok ((as.filter answer).reverse ++ acc) := by
  induction as generalizing acc with
  | nil => rfl
  | cons a as ih =>
      rw [List.filterAuxM, h a]
      change List.filterAuxM question as _ = _
      rw [ih]
      cases ha : answer a <;> simp [ha]

theorem filterM_ok {α : Type} {question : α → Except Fault Bool} {answer : α → Bool}
    (h : ∀ a, question a = .ok (answer a)) (as : List α) :
    as.filterM question = .ok (as.filter answer) := by
  rw [List.filterM, filterAuxM_ok h]
  simp [bind, Except.bind, pure, Except.pure]

section Active

variable {canvas : Canvas} {active : Active}

/-- The points of the bounds are tiles of the grid, whatever the size of the grid is. -/
theorem mem_grid_of_mem_bounds {c : Config} {p : Point}
    (h : p ∈ (⟨0, 0, c.columns, c.rows⟩ : Rect)) :
    (0 ≤ p.x ∧ p.x < c.columns) ∧ 0 ≤ p.y ∧ p.y < c.rows := by
  simp only [Rect.mem_iff, Rect.right, Rect.bottom, Bounded.clampSigned, Bounded.minSigned,
    Bounded.maxSigned] at h
  omega

theorem fed_eq (h : canvas.active = some active) (a : Actor) (ways : List Heading) :
    fed canvas a ways =
      .ok (ways.filter fun heading => feeds canvas active.config (a.neighbour heading)) := by
  refine filterM_ok (fun heading => ?_) ways
  simp only [Canvas.bounds_of_active h, bind, Except.bind, feeds]
  by_cases hmem : a.neighbour heading ∈ (⟨0, 0, active.config.columns, active.config.rows⟩ : Rect)
  · obtain ⟨⟨hx, hx'⟩, hy, hy'⟩ := mem_grid_of_mem_bounds hmem
    simp [hmem, Canvas.tile_of_mem h hx hx' hy hy', pure, Except.pure]
  · simp [hmem, pure, Except.pure]

theorem feeds_iff (h : canvas.active = some active) (hvalid : active.config.Valid) {a : Actor}
    {heading : Heading} :
    feeds canvas active.config (a.neighbour heading) = true ↔ a.Fed canvas heading := by
  rw [feeds, Bool.and_eq_true, decide_eq_true_eq, Canvas.mem_tiles_iff hvalid,
    Option.isSome_iff_exists, Actor.Fed]
  simp only [Canvas.tile_eq_ok_iff h, exists_and_left, eq_comm]

/-- The candidates that lead to food. -/
def fedWays (canvas : Canvas) (c : Config) (a : Actor) : List Heading :=
  a.ways.filter fun heading => feeds canvas c (a.neighbour heading)

/-- The directions that an actor chooses from on a canvas that is set up. -/
def choices (canvas : Canvas) (c : Config) (a : Actor) (hungry : Bool) : List Heading :=
  if hungry = true ∧ fedWays canvas c a ≠ [] then fedWays canvas c a else a.ways

theorem options_eq (h : canvas.active = some active) (a : Actor) (hungry : Bool) :
    options canvas a hungry = .ok (choices canvas active.config a hungry) := by
  unfold options choices fedWays
  cases hways : a.ways with
  | nil => simp
  | cons first others =>
      cases hungry with
      | false => simp
      | true =>
          simp only [if_true, fed_eq h, bind, Except.bind, pure, Except.pure, true_and,
            List.isEmpty_iff, ite_not]

theorem choices_sublist (canvas : Canvas) (c : Config) (a : Actor) (hungry : Bool) :
    (choices canvas c a hungry).Sublist a.ways := by
  unfold choices
  split
  · exact List.filter_sublist
  · exact List.Sublist.refl _

theorem nodup_choices (canvas : Canvas) (c : Config) (a : Actor) (hungry : Bool) :
    (choices canvas c a hungry).Nodup :=
  a.nodup_ways.sublist (choices_sublist canvas c a hungry)

/-- An actor has a choice if it has a candidate. -/
theorem choices_ne_nil {c : Config} {a : Actor} {hungry : Bool} {heading : Heading}
    (h : a.Candidate heading) : choices canvas c a hungry ≠ [] := by
  unfold choices
  split
  · rename_i hfed
    exact hfed.2
  · exact List.ne_nil_of_mem (Actor.mem_ways_iff.2 h)

theorem mem_choices_iff (h : canvas.active = some active) (hvalid : active.config.Valid)
    {a : Actor} {hungry : Bool} {heading : Heading} :
    heading ∈ choices canvas active.config a hungry ↔ a.Choosable canvas hungry heading := by
  have hwith : ∀ heading, heading ∈ fedWays canvas active.config a ↔
      a.Candidate heading ∧ a.Fed canvas heading := by
    intro heading
    rw [fedWays, List.mem_filter, Actor.mem_ways_iff, feeds_iff h hvalid]
  unfold choices
  split
  · rename_i hfed
    obtain ⟨hhungry, hsome⟩ := hfed
    obtain ⟨best, hbest⟩ := List.exists_mem_of_ne_nil _ hsome
    rw [hwith]
    exact ⟨fun hheading => ⟨hheading.1, fun _ _ => hheading.2⟩,
      fun hchoosable => ⟨hchoosable.candidate, hchoosable.fed hhungry ⟨best, (hwith best).1 hbest⟩⟩⟩
  · rename_i hfed
    rw [Actor.mem_ways_iff]
    refine ⟨fun hcandidate => ⟨hcandidate, fun hhungry hother => ?_⟩, Actor.Choosable.candidate⟩
    obtain ⟨other, hother⟩ := hother
    exact absurd ⟨hhungry, List.ne_nil_of_mem ((hwith other).2 hother)⟩ hfed

end Active

/-- On a canvas that is not set up only a hungry actor fails to know its directions. -/
theorem options_of_unset {canvas : Canvas} (h : canvas.active = none) (a : Actor) (hungry : Bool) :
    options canvas a hungry = .ok a.ways ∨ options canvas a hungry = .error .canvasUnset := by
  unfold options
  cases hways : a.ways with
  | nil => exact .inl rfl
  | cons first others =>
      cases hungry with
      | false => exact .inl rfl
      | true =>
          refine .inr ?_
          simp only [if_true, fed, List.filterM, List.filterAuxM, Canvas.bounds_of_unset h, bind,
            Except.bind]

/-- Whatever the canvas is, an actor that knows its directions has the candidates among them, and
none only if there is no candidate. -/
theorem candidate_of_options {canvas : Canvas} {a : Actor} {hungry : Bool}
    {headings : List Heading} (h : options canvas a hungry = .ok headings) :
    (∀ heading ∈ headings, a.Candidate heading) ∧
      (headings = [] → ¬ ∃ heading, a.Candidate heading) := by
  cases hactive : canvas.active with
  | none =>
      obtain hways | herror := options_of_unset hactive a hungry
      · rw [hways] at h
        cases h
        refine ⟨fun heading => Actor.mem_ways_iff.1, ?_⟩
        rintro hnil ⟨heading, hcandidate⟩
        exact List.ne_nil_of_mem (Actor.mem_ways_iff.2 hcandidate) hnil
      · rw [herror] at h
        cases h
  | some active =>
      rw [options_eq hactive] at h
      cases h
      refine ⟨fun heading hmem => ?_, ?_⟩
      · exact Actor.mem_ways_iff.1 ((choices_sublist canvas active.config a hungry).subset hmem)
      · rintro hnil ⟨heading, hcandidate⟩
        exact choices_ne_nil hcandidate hnil

/-! ### The draw -/

/-- The play with other numbers to come. -/
def redrawn (play : Play ρ) (random : ρ) : Play ρ :=
  { play with world := { play.world with random := random } }

variable [RandomSource ρ] {play : Play ρ} {a : Actor} {hungry : Bool}

theorem choose_mem {α : Type} (first : α) (others : List α) (source : ρ) :
    (RandomSource.choose first others source).1 ∈ first :: others := List.get_mem _ _

theorem run_chooseHeading_of_error {fault : Fault}
    (h : options play.canvas a hungry = .error fault) :
    (chooseHeading a hungry).run play = ⟨.error fault, play, []⟩ := by
  rw [chooseHeading, Action.run_query_bind, h]

theorem run_chooseHeading_of_nil (h : options play.canvas a hungry = .ok []) :
    (chooseHeading a hungry).run play = ⟨.ok a.heading.reverse, play, []⟩ := by
  rw [chooseHeading, Action.run_query_bind, h]
  rfl

theorem run_chooseHeading_of_cons {first : Heading} {others : List Heading}
    (h : options play.canvas a hungry = .ok (first :: others)) :
    (chooseHeading a hungry).run play =
      ⟨.ok (RandomSource.choose first others play.world.random).1,
        redrawn play (RandomSource.choose first others play.world.random).2, []⟩ := by
  rw [chooseHeading, Action.run_query_bind, h]
  rfl

/-- On any canvas, the direction that an actor in a corridor chooses leads to an open tile, also
when it turns back. -/
theorem run_chooseHeading_cases (play : Play ρ) (ha : a.InCorridor) (hungry : Bool) :
    (∃ fault, options play.canvas a hungry = .error fault ∧
        (chooseHeading a hungry).run play = ⟨.error fault, play, []⟩) ∨
      ∃ heading random, Level.isOpen (a.neighbour heading) = true ∧
        (chooseHeading a hungry).run play = ⟨.ok heading, redrawn play random, []⟩ := by
  cases hoptions : options play.canvas a hungry with
  | error fault => exact .inl ⟨fault, rfl, run_chooseHeading_of_error hoptions⟩
  | ok headings =>
      right
      obtain ⟨hcandidates, hend⟩ := candidate_of_options hoptions
      cases headings with
      | nil =>
          exact ⟨a.heading.reverse, play.world.random, ha.isOpen_reverse (hend rfl),
            run_chooseHeading_of_nil hoptions⟩
      | cons first others =>
          exact ⟨_, _, (hcandidates _ (choose_mem first others play.world.random)).2,
            run_chooseHeading_of_cons hoptions⟩

omit [RandomSource ρ] in
/-- Where there is a candidate, one number is drawn, and each direction that may be chosen is the
one that exactly one number picks. -/
theorem exists_pick {canvas : Canvas} {active : Active} (h : canvas.active = some active)
    (hvalid : active.config.Valid) (hcandidate : ∃ heading, a.Candidate heading) :
    ∃ (last : Nat) (pick : Fin (last + 1) → Heading), Function.Injective pick ∧
      (∀ heading, (∃ i, pick i = heading) ↔ a.Choosable canvas hungry heading) ∧
      ∀ (source : RandomSource ρ) (world : World ρ),
        (@chooseHeading ρ source a hungry).run ⟨world, canvas⟩ =
          ⟨.ok (pick (source.draw last world.random).1),
            redrawn ⟨world, canvas⟩ (source.draw last world.random).2, []⟩ := by
  obtain ⟨way, hway⟩ := hcandidate
  cases hchoices : choices canvas active.config a hungry with
  | nil => exact absurd hchoices (choices_ne_nil hway)
  | cons first others =>
      have hnodup := nodup_choices canvas active.config a hungry
      rw [hchoices] at hnodup
      refine ⟨others.length, (first :: others).get, List.nodup_iff_injective_get.1 hnodup,
        fun heading => ?_, fun source world => ?_⟩
      · rw [← mem_choices_iff h hvalid, hchoices, List.mem_iff_get]
        rfl
      · exact run_chooseHeading_of_cons (by rw [options_eq h, hchoices])

end World

end Mosaic
