import Mosaic.Proofs.Canvas.Akin
import Mosaic.Proofs.Stage.Calls

/-!
# Stages with akin canvases

A command that stays on the canvas answers the same on akin canvases, with other numbers where it
answers the resources (`renames_command`). On one and the same device no number can differ, and
then every operation comes to the same and leaves the device in the same state (`matches_operation`).
A canvas that is set up is akin to any other with its sheet that is set up in its place, whatever
either was used for before (`setup_of_unset`).
-/

namespace Mosaic

namespace Stage

/-- The reply with other numbers of resources. -/
def Reply.rename (f : Nat → Nat) : Reply → Reply
  | .resources set => .resources (set.map (ResourceSet.rename f))
  | reply => reply

theorem Reply.rename_id (reply : Reply) : reply.rename id = reply := by
  cases reply with
  | resources set => cases set <;> rfl
  | _ => rfl

theorem map_rename_id (result : Except Fault Reply) : Reply.rename id <$> result = result := by
  cases result with
  | error fault => rfl
  | ok reply => exact congrArg Except.ok reply.rename_id

variable {δ ε : Type} {f : Nat → Nat}

/-! ### Commands that stay on the canvas -/

/-- The canvases are akin, whatever the devices. -/
def Akin (f : Nat → Nat) (s : Stage δ) (t : Stage ε) : Prop := s.canvas.Akin f t.canvas

theorem akin_onCanvas {α : Type} {action : Action Canvas α}
    (h : Action.Matches (Canvas.Akin f) action action) :
    Action.Matches (Akin f) (onCanvas action : Action (Stage δ) α)
      (onCanvas action : Action (Stage ε) α) :=
  Action.matches_part h (fun _ _ h => h) fun _ _ _ _ _ h => h

/-- On akin canvases the second action answers as the first, with other numbers. -/
def Renames (f : Nat → Nat) (first : Action (Stage δ) Reply) (second : Action (Stage ε) Reply) :
    Prop :=
  ∀ s t, Akin f s t → (second.run t).result = Reply.rename f <$> (first.run s).result ∧
    Akin f (first.run s).state (second.run t).state

theorem renames_answer {α : Type} {reply : α → Reply} {question : Canvas → Except Fault α}
    (hreply : ∀ a, (reply a).rename f = reply a)
    (h : ∀ {canvas other : Canvas}, canvas.Akin f other → question canvas = question other) :
    Renames f (answer reply question : Action (Stage δ) Reply)
      (answer reply question : Action (Stage ε) Reply) := by
  intro s t hst
  refine ⟨?_, hst⟩
  change reply <$> question t.canvas = Reply.rename f <$> (reply <$> question s.canvas)
  rw [← h hst]
  cases question s.canvas with
  | error fault => rfl
  | ok a => exact congrArg Except.ok (hreply a).symm

theorem renames_bind {α : Type} {action : Action Canvas α}
    {next : α → Action (Stage δ) Reply} {next' : α → Action (Stage ε) Reply}
    (h : Action.Matches (Canvas.Akin f) action action) (hnext : ∀ a, Renames f (next a) (next' a)) :
    Renames f (onCanvas action >>= next) (onCanvas action >>= next') := by
  intro s t hst
  obtain ⟨hresult, hstate⟩ := akin_onCanvas h s t hst
  rw [Action.run_bind, Action.run_bind]
  generalize (onCanvas action).run s = outcome at hresult hstate ⊢
  generalize (onCanvas action).run t = outcome' at hresult hstate ⊢
  obtain ⟨result, s', notes⟩ := outcome
  obtain ⟨result', t', notes'⟩ := outcome'
  cases hresult
  cases result with
  | error fault => exact ⟨rfl, hstate⟩
  | ok a => exact hnext a s' t' hstate

theorem renames_edit {action : Action Canvas Unit}
    (h : Action.Matches (Canvas.Akin f) action action) :
    Renames f (do onCanvas action; return Reply.done : Action (Stage δ) Reply)
      (do onCanvas action; return Reply.done : Action (Stage ε) Reply) :=
  renames_bind h fun _ _ _ hst => ⟨rfl, hst⟩

variable [Device δ] [Device ε]

theorem renames_command {c : Command} (h : ¬ c.AsksDevice) :
    Renames f (c.run : Action (Stage δ) Reply) (c.run : Action (Stage ε) Reply) := by
  have hsees := Canvas.seesTiles_akin f
  cases c with
  | setup | discard | render => exact absurd trivial h
  | copyText target text => exact renames_edit (Canvas.matches_copyText hsees target text)
  | setTile sprite x y => exact renames_edit (Canvas.matches_setTile hsees sprite x y)
  | setSprite slot sprite bounds => exact renames_edit (Canvas.matches_setSprite slot sprite bounds)
  | clear => exact renames_edit Canvas.matches_clear
  | updateVertices =>
      refine renames_bind Canvas.matches_updateVertices fun _ => ?_
      exact renames_answer (fun _ => rfl) fun h => congrArg Except.ok h.vertices
  | config => exact renames_answer (fun _ => rfl) fun h => h.config.symm
  | geometry => exact renames_answer (fun _ => rfl) fun h => h.geometry
  | clamp x y =>
      refine fun s t hst => ⟨?_, hst⟩
      have hx := hsees.clampX hst x
      have hy := hsees.clampY hst y
      simp only [Command.run, answer, Action.run_query, ← hx, ← hy, id_map]
      cases s.canvas.clampX x with
      | error fault => rfl
      | ok x' => cases s.canvas.clampY y <;> rfl
  | tile x y => exact renames_answer (fun _ => rfl) fun h => hsees.tile h x y
  | grid => exact renames_answer (fun _ => rfl) fun h => hsees.grid h
  | occupied => exact renames_answer (fun _ => rfl) fun h => hsees.occupied h
  | sprite slot => exact renames_answer (fun _ => rfl) fun h => h.sprite slot
  | activeSprites => exact renames_answer (fun _ => rfl) fun h => h.activeSprites
  | vertices => exact renames_answer (fun _ => rfl) fun h => congrArg Except.ok h.vertices
  | resources =>
      refine fun s t hst => ⟨?_, hst⟩
      have hresources := Canvas.Akin.resources hst
      change Except.ok (Reply.resources t.canvas.resources) = _
      rw [hresources]
      rfl
  | sheetCount =>
      refine renames_answer (fun _ => rfl) fun h => ?_
      rw [h.sheet]

/-! ### On the same device -/

/-- Akin canvases on devices in the same state. -/
def Alike (s t : Stage δ) : Prop := s.canvas.Akin id t.canvas ∧ t.device = s.device

omit [Device δ] in
theorem alike_onCanvas {α : Type} {action : Action Canvas α}
    (h : Action.Matches (Canvas.Akin id) action action) :
    Action.Matches (Alike (δ := δ)) (onCanvas action) (onCanvas action) :=
  Action.matches_part h (fun _ _ h => h.1) fun _ _ _ _ h hcanvas => ⟨hcanvas, h.2⟩

omit [Device δ] in
theorem alike_onDevice {α : Type} (action : Action δ α) :
    Action.Matches Alike (onDevice action) (onDevice action) := by
  refine Action.matches_part (Q := fun d d' => d' = d) ?_ (fun _ _ h => h.2)
    fun _ _ _ _ h hdevice => ⟨h.1, hdevice⟩
  rintro d - rfl
  exact ⟨rfl, rfl⟩

theorem alike_setup (c : Config) : Action.Matches (Alike (δ := δ)) (setup c) (setup c) := by
  refine Action.matches_get_bind fun s t h => ?_
  rw [Canvas.isValid, Canvas.isValid, h.1.active_id, h.1.sheet]
  split
  · exact Action.matches_pure _
  · cases c.validate with
    | error e => exact Action.matches_pure _
    | ok u =>
        refine Action.matches_bind (alike_onDevice _) fun acquired => ?_
        cases acquired with
        | error e => exact Action.matches_pure _
        | ok resources =>
            refine Action.matches_bind (alike_onCanvas ?_) fun _ => ?_
            · exact Action.matches_modify fun _ _ h =>
                Canvas.akin_opened c resources h.sheet h.arena.capacity
            refine Action.matches_bind (Action.matches_ofExcept _) fun width => ?_
            refine Action.matches_bind (Action.matches_ofExcept _) fun height => ?_
            exact Action.matches_bind (Action.matches_note _ _) fun _ => Action.matches_pure _

theorem alike_discard : Action.Matches (Alike (δ := δ)) discard discard := by
  refine Action.matches_get_bind fun s t h => ?_
  rw [h.1.active_id]
  cases s.canvas.active with
  | none => exact Action.matches_note _ _
  | some a =>
      refine Action.matches_bind (alike_onCanvas ?_) fun _ => ?_
      · exact Action.matches_modify fun _ _ h => h.deactivated
      refine Action.matches_bind (alike_onDevice _) fun _ => ?_
      refine Action.matches_bind (alike_onCanvas ?_) fun _ => Action.matches_note _ _
      exact Action.matches_modify fun _ _ h => h.closed

theorem alike_drop : Action.Matches (Alike (δ := δ)) drop drop := by
  refine Action.matches_get_bind fun s t h => ?_
  rw [Canvas.isValid, Canvas.isValid, h.1.active_id]
  split
  · exact alike_discard
  · exact Action.matches_pure _

theorem alike_render : Action.Matches (Alike (δ := δ)) render render := by
  refine Action.matches_bind (alike_onCanvas (Action.matches_query fun _ _ h => ?_)) fun a => ?_
  · rw [Canvas.requireActive, Canvas.requireActive, h.active_id]
  refine Action.matches_bind (alike_onCanvas Canvas.matches_updateVertices) fun _ => ?_
  refine Action.matches_get_bind fun s t h => ?_
  have hbytes : t.canvas.arena.bytes = s.canvas.arena.bytes :=
    congrArg Vertex.encode h.1.arena.vertices
  have hcount : t.canvas.vertexCount = s.canvas.vertexCount := h.1.vertexCount.symm
  rw [hbytes, hcount]
  refine Action.matches_bind (Action.matches_note _ _) fun _ => ?_
  exact Action.matches_bind (alike_onDevice _) fun _ => alike_onDevice _

/-- On devices in the same state an operation comes to the same. -/
theorem alike_operation (op : Operation) : Action.Matches (Alike (δ := δ)) op.run op.run := by
  cases op with
  | drop => exact Action.matches_bind alike_drop fun _ => Action.matches_pure _
  | command c =>
      by_cases hasks : c.AsksDevice
      · cases c with
        | setup c => exact Action.matches_bind (alike_setup c) fun _ => Action.matches_pure _
        | discard => exact Action.matches_bind alike_discard fun _ => Action.matches_pure _
        | render => exact Action.matches_bind alike_render fun _ => Action.matches_pure _
        | _ => exact hasks.elim
      · intro s t h
        obtain ⟨hresult, hcanvas⟩ := renames_command hasks s t h.1
        rw [map_rename_id] at hresult
        have hdevice := device_command hasks s
        have hdevice' := device_command hasks t
        exact ⟨hresult.symm, hcanvas, (hdevice'.trans h.2).trans hdevice.symm⟩

/-- Two canvases that are not set up and have the same sheet become akin when both are set up on a
device in the same state. -/
theorem setup_of_unset {s t : Stage δ} (hs : s.canvas.active = none) (ht : t.canvas.active = none)
    (hsheet : t.canvas.sheet = s.canvas.sheet)
    (hcapacity : t.canvas.arena.capacity = s.canvas.arena.capacity) (hdevice : t.device = s.device)
    {c : Config} (hok : ((setup c).run t).result = .ok (.ok ())) :
    ((setup c).run s).result = .ok (.ok ()) ∧
      Alike ((setup c).run s).state ((setup c).run t).state := by
  cases hc : c.validate with
  | error e =>
      rw [run_setup_of_invalid ht hc] at hok
      cases hok
  | ok u =>
  rcases hrun : (ResourceSet.acquire meshLayout s.canvas.sheet.image).run s.device
    with ⟨fault | e | resources, d, notes⟩
  all_goals
    have hrun' := hrun
    rw [← hsheet, ← hdevice] at hrun'
  · rw [run_setup_of_fault ht hc hrun'] at hok
    cases hok
  · rw [run_setup_of_refused ht hc hrun'] at hok
    cases hok
  · obtain ⟨line, hsetup⟩ := run_setup_of_made hs hc hrun
    obtain ⟨line', hsetup'⟩ := run_setup_of_made ht hc hrun'
    rw [hsetup, hsetup']
    exact ⟨rfl, Canvas.akin_opened c resources hsheet hcapacity, rfl⟩

end Stage

end Mosaic
