import Mosaic.Proofs.Canvas.Sound
import Mosaic.Proofs.Device.Acquire
import Mosaic.Proofs.Stage.Operation
import Mosaic.Proofs.Stage.Simulation

/-!
# The calls that an operation makes

`Stage.calls stage op` are the calls that an operation of a canvas makes to its device, with what
the device answers. To list them changes nothing (`run_watched`), and they are all that happens to
the device (`serves_calls`). A property of states and notes that holds of the operations of a device
passes to those of the canvas on it (`traces_command`, `traces_drop`).
-/

namespace Mosaic

namespace Canvas

/-! ### Editing -/

/-- The canvas stays set up as it is, and only lines of the log are noted. -/
def Edits (before : Canvas) (notes : List Note) (after : Canvas) : Prop :=
  after.active = before.active ∧ ∀ n ∈ notes, ∃ level text, n = .log level text

instance : Action.IsTrace Edits where
  refl _ := ⟨rfl, fun _ h => absurd h List.not_mem_nil⟩
  trans _ _ _ _ _ h h' := ⟨h'.1.trans h.1, fun n hn => (List.mem_append.1 hn).elim (h.2 n) (h'.2 n)⟩

theorem logsOnly_of_edits {α : Type} {action : Action Canvas α} (h : Action.Traces Edits action) :
    Action.Traces Action.LogsOnly action := fun canvas => (h canvas).2

theorem edits_modify {change : Canvas → Canvas}
    (h : ∀ canvas, (change canvas).active = canvas.active) :
    Action.Traces Edits (Action.modify change) :=
  Action.traces_modify fun canvas => ⟨h canvas, fun _ hn => absurd hn List.not_mem_nil⟩

theorem edits_copyCharacter (block : Block) (character : Char) (i : Nat) :
    Action.Traces Edits (copyCharacter block character i) := by
  rw [copyCharacter]
  cases block.place i with
  | none => exact Action.traces_pure _
  | some p =>
      refine Action.traces_bind (Action.traces_query _) fun sprite => ?_
      exact Action.traces_bind (Action.traces_query _) fun _ => edits_modify fun _ => rfl

theorem edits_copyText (target : Rect) (text : List Char) :
    Action.Traces Edits (copyText target text) := by
  refine Action.traces_bind (Action.traces_query _) fun grid => ?_
  have hcopy : Action.Traces Edits
      (copyAll ⟨target, grid.clip target, grid.width.toNat⟩ text.zipIdx) :=
    Action.traces_each fun entry _ => edits_copyCharacter _ _ _
  dsimp only
  split
  · exact Action.traces_fault _
  split
  · exact Action.traces_fault _
  split
  · refine Action.traces_bind (Action.traces_note fun canvas => ⟨rfl, fun _ h => ?_⟩) fun _ => hcopy
    exact ⟨_, _, List.mem_singleton.1 h⟩
  · exact hcopy

theorem edits_setTile (sprite : Option SpriteId) (x y : Int) :
    Action.Traces Edits (setTile sprite x y) := by
  refine Action.traces_bind (Action.traces_query _) fun i => ?_
  exact Action.traces_bind (Action.traces_query _) fun _ => edits_modify fun _ => rfl

theorem edits_setSprite (slot : Nat) (sprite : Option SpriteId) (bounds : Rect) :
    Action.Traces Edits (setSprite slot sprite bounds) := by
  refine Action.traces_bind (Action.traces_query _) fun _ => ?_
  exact Action.traces_bind (Action.traces_query _) fun _ => edits_modify fun _ => rfl

theorem edits_clear : Action.Traces Edits clear :=
  Action.traces_bind (Action.traces_query _) fun _ => edits_modify fun _ => rfl

theorem logsOnly_push (quad : Quad) : Action.Traces Action.LogsOnly (Arena.push quad) := by
  intro arena
  by_cases hroom : arena.length + Quad.size ≤ arena.capacity
  · rw [Arena.run_push_of_room hroom]
    exact fun _ h => absurd h List.not_mem_nil
  · rw [Arena.run_push_of_full hroom]
    exact fun _ h => absurd h List.not_mem_nil

theorem logsOnly_pushSprite (sheet : Sheet) (width height : Int) (sprite : Sprite) :
    Action.Traces Action.LogsOnly (pushSprite sheet width height sprite) :=
  Action.traces_bind (Action.traces_ofExcept _) fun _ => logsOnly_push _

theorem edits_updateVertices : Action.Traces Edits updateVertices := by
  refine Action.traces_bind (Action.traces_query _) fun c => ?_
  refine Action.traces_bind (Action.traces_ofExcept _) fun width => ?_
  refine Action.traces_bind (Action.traces_ofExcept _) fun height => ?_
  refine Action.traces_bind Action.traces_get fun canvas => ?_
  refine Action.traces_part (Q := Action.LogsOnly) ?_ fun _ _ _ h => ⟨rfl, h⟩
  refine Action.traces_bind (Action.logsOnly_modify _) fun _ => ?_
  refine Action.traces_bind (Action.traces_each fun tile _ => ?_) fun _ => ?_
  · exact Action.traces_bind (Action.traces_ofExcept _) fun bounds => logsOnly_pushSprite _ _ _ _
  · exact Action.traces_each fun sprite _ => logsOnly_pushSprite _ _ _ _

end Canvas

namespace Stage

variable {δ : Type}

/-! ### Which commands leave the canvas set up as it is -/

/-- The canvas stays set up as it is. -/
def KeepsActive (before after : Stage δ) : Prop := after.canvas.active = before.canvas.active

instance : IsPreorder (Stage δ) KeepsActive where
  refl _ := rfl
  trans _ _ _ hab hbc := hbc.trans hab

theorem keepsActive_onCanvas {α : Type} {action : Action Canvas α}
    (h : Action.Traces Canvas.Edits action) :
    Action.Follows KeepsActive (onCanvas action : Action (Stage δ) α) :=
  fun stage => (h stage.canvas).1

theorem keepsActive_onDevice {α : Type} (action : Action δ α) :
    Action.Follows KeepsActive (onDevice action) := fun _ => rfl

/-! ### What holds of the device holds of the stage -/

/-- The device goes from one state to another as `R` allows. -/
def OnDevice (R : δ → List Note → δ → Prop) (before : Stage δ) (notes : List Note)
    (after : Stage δ) : Prop := R before.device notes after.device

variable {R : δ → List Note → δ → Prop}

theorem traces_onDevice {α : Type} {action : Action δ α} (h : Action.Traces R action) :
    Action.Traces (OnDevice R) (onDevice action) :=
  Action.traces_part h fun _ _ _ hR => hR

theorem traces_log (hlog : ∀ d level text, R d [.log level text] d) (level : LogLevel)
    (text : String) : Action.Traces (OnDevice R) (Action.log level text : Action (Stage δ) Unit) :=
  Action.traces_note fun s => hlog s.device level text

variable [Action.IsTrace R]

instance : Action.IsTrace (OnDevice R) where
  refl s := Action.IsTrace.refl s.device
  trans s t u := Action.IsTrace.trans s.device t.device u.device

theorem traces_onCanvas {α : Type} (hlog : ∀ d level text, R d [.log level text] d)
    {action : Action Canvas α} (h : Action.Traces Action.LogsOnly action) :
    Action.Traces (OnDevice R) (onCanvas action : Action (Stage δ) α) :=
  Action.traces_part h fun s _ _ hlogs => Action.trace_of_logsOnly hlog hlogs s.device

theorem traces_edit (hlog : ∀ d level text, R d [.log level text] d) {action : Action Canvas Unit}
    (h : Action.Traces Canvas.Edits action) :
    Action.Traces (OnDevice R)
      (do onCanvas action; return Reply.done : Action (Stage δ) Reply) :=
  Action.traces_bind (traces_onCanvas hlog (Canvas.logsOnly_of_edits h)) fun _ =>
    Action.traces_pure _

variable [Device δ]

theorem traces_setup (hlog : ∀ d level text, R d [.log level text] d)
    (hmaking : Device.Making (δ := δ) (Action.Traces R)) (c : Config) :
    Action.Traces (OnDevice R) (setup c : Action (Stage δ) (Except SetupError Unit)) := by
  refine Action.traces_bind Action.traces_get fun stage => ?_
  split
  · exact Action.traces_pure _
  cases c.validate with
  | error e => exact Action.traces_pure _
  | ok u =>
  have hacquire := ResourceSet.traces_acquire hlog hmaking meshLayout stage.canvas.sheet.image
  refine Action.traces_bind (traces_onDevice hacquire) fun acquired => ?_
  cases acquired with
  | error e => exact Action.traces_pure _
  | ok resources =>
  refine Action.traces_bind (traces_onCanvas hlog (Action.logsOnly_modify _)) fun _ => ?_
  refine Action.traces_bind (Action.traces_ofExcept _) fun width => ?_
  refine Action.traces_bind (Action.traces_ofExcept _) fun height => ?_
  exact Action.traces_bind (traces_log hlog _ _) fun _ => Action.traces_pure _

theorem traces_discard (hlog : ∀ d level text, R d [.log level text] d)
    (hmaking : Device.Making (δ := δ) (Action.Traces R)) :
    Action.Traces (OnDevice R) (discard : Action (Stage δ) Unit) := by
  refine Action.traces_bind Action.traces_get fun stage => ?_
  cases stage.canvas.active with
  | none => exact traces_log hlog _ _
  | some a =>
      refine Action.traces_bind (traces_onCanvas hlog (Action.logsOnly_modify _)) fun _ => ?_
      have hrelease := traces_onDevice (ResourceSet.traces_release hmaking a.resources)
      refine Action.traces_bind hrelease fun _ => ?_
      refine Action.traces_bind (traces_onCanvas hlog (Action.logsOnly_modify _)) fun _ => ?_
      exact traces_log hlog _ _

theorem traces_drop (hlog : ∀ d level text, R d [.log level text] d)
    (hmaking : Device.Making (δ := δ) (Action.Traces R)) :
    Action.Traces (OnDevice R) (drop : Action (Stage δ) Unit) := by
  refine Action.traces_bind Action.traces_get fun stage => ?_
  split
  · exact traces_discard hlog hmaking
  · exact Action.traces_pure _

theorem traces_render (hlog : ∀ d level text, R d [.log level text] d)
    (hupload : ∀ mesh bytes, Action.Traces R (Device.upload mesh bytes))
    (hdraw : ∀ call, Action.Traces R (Device.draw call)) :
    Action.Traces (OnDevice R) (render : Action (Stage δ) Unit) := by
  have hlist := Canvas.logsOnly_of_edits Canvas.edits_updateVertices
  refine Action.traces_bind (traces_onCanvas hlog (Action.traces_query _)) fun a => ?_
  refine Action.traces_bind (traces_onCanvas hlog hlist) fun _ => ?_
  refine Action.traces_bind Action.traces_get fun stage => ?_
  refine Action.traces_bind (traces_log hlog _ _) fun _ => ?_
  exact Action.traces_bind (traces_onDevice (hupload _ _)) fun _ => traces_onDevice (hdraw _)

/-- Every command but rendering does to the device what making and destroying resources does. -/
theorem traces_command (hlog : ∀ d level text, R d [.log level text] d)
    (hmaking : Device.Making (δ := δ) (Action.Traces R)) {c : Command} (hc : c ≠ .render) :
    Action.Traces (OnDevice R) (c.run : Action (Stage δ) Reply) := by
  cases c with
  | setup c => exact Action.traces_map (traces_setup hlog hmaking c) _
  | discard =>
      exact Action.traces_bind (traces_discard hlog hmaking) fun _ => Action.traces_pure _
  | render => exact absurd rfl hc
  | copyText target text => exact traces_edit hlog (Canvas.edits_copyText target text)
  | setTile sprite x y => exact traces_edit hlog (Canvas.edits_setTile sprite x y)
  | setSprite slot sprite bounds =>
      exact traces_edit hlog (Canvas.edits_setSprite slot sprite bounds)
  | clear => exact traces_edit hlog Canvas.edits_clear
  | updateVertices =>
      have hlist := Canvas.logsOnly_of_edits Canvas.edits_updateVertices
      exact Action.traces_bind (traces_onCanvas hlog hlist) fun _ => Action.traces_query _
  | config | geometry | clamp | tile | grid | occupied | sprite | activeSprites | vertices
  | resources | sheetCount => exact Action.traces_query _

theorem keepsActive_render : Action.Follows KeepsActive (render : Action (Stage δ) Unit) := by
  refine Action.follows_bind (keepsActive_onCanvas (Action.traces_query _)) fun a => ?_
  refine Action.follows_bind (keepsActive_onCanvas Canvas.edits_updateVertices) fun _ => ?_
  refine Action.follows_bind Action.follows_get fun stage => ?_
  refine Action.follows_bind (Action.follows_log _ _) fun _ => ?_
  exact Action.follows_bind (keepsActive_onDevice _) fun _ => keepsActive_onDevice _

theorem active_command {c : Command} (hsetup : ∀ g, c ≠ .setup g) (hdiscard : c ≠ .discard) :
    Action.Follows KeepsActive (c.run : Action (Stage δ) Reply) := by
  have hedit : ∀ {action : Action Canvas Unit}, Action.Traces Canvas.Edits action →
      Action.Follows KeepsActive
        (do onCanvas action; return Reply.done : Action (Stage δ) Reply) := fun h =>
    Action.follows_bind (keepsActive_onCanvas h) fun _ => Action.follows_pure _
  cases c with
  | setup g => exact absurd rfl (hsetup g)
  | discard => exact absurd rfl hdiscard
  | copyText target text => exact hedit (Canvas.edits_copyText target text)
  | setTile sprite x y => exact hedit (Canvas.edits_setTile sprite x y)
  | setSprite slot sprite bounds => exact hedit (Canvas.edits_setSprite slot sprite bounds)
  | clear => exact hedit Canvas.edits_clear
  | updateVertices =>
      exact Action.follows_bind (keepsActive_onCanvas Canvas.edits_updateVertices) fun _ =>
        Action.follows_query _
  | render => exact Action.follows_bind keepsActive_render fun _ => Action.follows_pure _
  | config | geometry | clamp | tile | grid | occupied | sprite | activeSprites | vertices
  | resources | sheetCount => exact Action.follows_query _

theorem active_of_not_asksDevice {c : Command} (h : ¬ c.AsksDevice) :
    Action.Follows KeepsActive (c.run : Action (Stage δ) Reply) := by
  refine active_command (fun g hg => h ?_) fun hdiscard => h ?_
  · rw [hg]
    trivial
  · rw [hdiscard]
    trivial

/-- A canvas that is not set up asks nothing of its device, except to be set up by a configuration
that is not refused. -/
theorem linked_of_unset {ε : Type} [Device ε] {R : δ → ε → Prop} {s : Stage δ} {t : Stage ε}
    (h : Linked R s t) (hunset : s.canvas.active = none) {c : Command}
    (hsetup : ∀ g, c = .setup g → ∃ e, g.validate = .error e) :
    Linked R (c.run.run s).state (c.run.run t).state ∧
      (c.run.run s).state.canvas.active = none := by
  have hunset' : t.canvas.active = none := h.1 ▸ hunset
  by_cases hasks : c.AsksDevice
  · cases c with
    | setup g =>
        obtain ⟨e, he⟩ := hsetup g rfl
        rw [Command.run, Command.run, Action.run_map, Action.run_map,
          run_setup_of_invalid hunset he, run_setup_of_invalid hunset' he]
        exact ⟨h, hunset⟩
    | discard =>
        obtain ⟨line, hrun⟩ := run_discard_of_unset hunset
        obtain ⟨line', hrun'⟩ := run_discard_of_unset hunset'
        rw [Command.run, Command.run, Action.run_bind_pure, Action.run_bind_pure, hrun, hrun']
        exact ⟨h, hunset⟩
    | render =>
        rw [Command.run, Command.run, Action.run_bind_pure, Action.run_bind_pure,
          run_render_of_unset hunset, run_render_of_unset hunset']
        exact ⟨h, hunset⟩
    | _ => exact hasks.elim
  · exact ⟨(matches_command hasks s t h).2, (active_of_not_asksDevice hasks s).trans hunset⟩

/-! ### The calls of an operation -/

/-- What can be asked of a canvas, letting go of it included. -/
inductive Operation where
  | command (command : Command)
  | drop

def Operation.run : Operation → Action (Stage δ) Reply
  | .command c => c.run
  | .drop => do
    Stage.drop
    return .done

/-- A sound canvas stays sound, and keeps its sheet, when it is let go of as well. -/
theorem keeps_operation (op : Operation) :
    Action.Follows Keeps (op.run : Action (Stage δ) Reply) := by
  cases op with
  | command c => exact follows_command c
  | drop =>
      refine Action.follows_bind ?_ fun _ => Action.follows_pure _
      refine Action.follows_bind Action.follows_get fun stage => ?_
      split
      · exact follows_discard
      · exact Action.follows_pure _

/-- The stage with its device watched. -/
def watched (stage : Stage δ) : Stage (Watched δ) := ⟨stage.canvas, ⟨stage.device, []⟩⟩

/-- The calls that an operation makes to the device, with what the device answers. -/
def calls (stage : Stage δ) (op : Operation) : List DeviceCall :=
  (op.run.run stage.watched).state.device.calls

theorem making_watched : Device.Making (δ := Watched δ) (Action.Traces Watched.Logged) where
  createMesh _ := Watched.logged_watch rfl
  createProgram := Watched.logged_watch rfl
  createDrawState _ _ := Watched.logged_watch rfl
  createTexture _ := Watched.logged_watch rfl
  destroy _ := Watched.logged_watch rfl

theorem logged_operation (op : Operation) :
    Action.Traces (OnDevice Watched.Logged) (op.run : Action (Stage (Watched δ)) Reply) := by
  have hlog : ∀ (w : Watched δ) level text, Watched.Logged w [.log level text] w :=
    fun w _ _ => ⟨[], (List.append_nil _).symm, rfl⟩
  cases op with
  | drop => exact Action.traces_bind (traces_drop hlog making_watched) fun _ => Action.traces_pure _
  | command c =>
      by_cases hc : c = .render
      · subst hc
        refine Action.traces_bind (traces_render hlog ?_ ?_) fun _ => Action.traces_pure _
        · exact fun _ _ => Watched.logged_watch rfl
        · exact fun _ => Watched.logged_watch rfl
      · exact traces_command hlog making_watched hc

theorem simulates_watched (layout : MeshLayout) (image : Image) :
    Device.Simulates (fun (w : Watched δ) d => w.device = d) layout image where
  createMesh := fun _ _ h => h ▸ ⟨rfl, rfl⟩
  createProgram := fun _ _ h => h ▸ ⟨rfl, rfl⟩
  createDrawState _ _ := fun _ _ h => h ▸ ⟨rfl, rfl⟩
  createTexture := fun _ _ h => h ▸ ⟨rfl, rfl⟩
  destroy _ := fun _ _ h => h ▸ ⟨rfl, rfl⟩
  upload _ _ := fun _ _ h => h ▸ ⟨rfl, rfl⟩
  draw _ := fun _ _ h => h ▸ ⟨rfl, rfl⟩

/-- On a watched device an operation comes to the same. -/
theorem run_watched (op : Operation) (stage : Stage δ) :
    (op.run.run stage.watched).result = (op.run.run stage).result ∧
      (op.run.run stage.watched).state.canvas = (op.run.run stage).state.canvas ∧
      (op.run.run stage.watched).state.device.device = (op.run.run stage).state.device := by
  have hR := simulates_watched (δ := δ) meshLayout stage.canvas.sheet.image
  have hlinked : Linked (fun (w : Watched δ) d => w.device = d) stage.watched stage := ⟨rfl, rfl⟩
  cases op with
  | command c => exact command_of_linked hR c hlinked rfl
  | drop =>
      exact Action.matches_bind (matches_drop hR) (fun _ => Action.matches_pure _) _ _ hlinked

/-- The calls of an operation are all that happens to the device. -/
theorem serves_calls (op : Operation) (stage : Stage δ) :
    Device.Serves stage.device (stage.calls op) (op.run.run stage).state.device := by
  obtain ⟨made, hmade, hserves⟩ := logged_operation op stage.watched
  rw [calls, hmade, ← (run_watched op stage).2.2]
  exact hserves

/-! ### Which calls an operation makes -/

theorem calls_of_not_asksDevice {c : Command} (h : ¬ c.AsksDevice) (stage : Stage δ) :
    stage.calls (.command c) = [] := by
  have hdevice : (c.run.run stage.watched).state.device = stage.watched.device := device_command h _
  rw [calls, Operation.run, hdevice]
  rfl

/-- A rendering call hands vertices to the mesh of the canvas or draws. -/
def Shows (stage : Stage δ) (request : DeviceRequest) : Prop :=
  (∃ a bytes, stage.canvas.active = some a ∧ request = .upload a.resources.mesh bytes) ∨
    ∃ d, request = .draw d

theorem calls_render (stage : Stage δ) :
    ∀ call ∈ stage.calls (.command .render), stage.Shows call.request := by
  rw [calls, Operation.run, Command.run, Action.run_bind_pure]
  cases h : stage.canvas.active with
  | none =>
      have h' : stage.watched.canvas.active = none := h
      rw [run_render_of_unset h']
      exact fun _ hcall => absurd hcall List.not_mem_nil
  | some a =>
  have h' : stage.watched.canvas.active = some a := h
  rw [render, Action.run_bind_of_silent (run_requireActive h')]
  have hlog : ∀ w level text, Watched.Asks (δ := δ) stage.Shows w [.log level text] w :=
    fun _ _ _ hbefore => hbefore
  refine (?_ : Action.Traces (OnDevice (Watched.Asks stage.Shows)) _) stage.watched
    fun _ hcall => absurd hcall List.not_mem_nil
  have hlist := Canvas.logsOnly_of_edits Canvas.edits_updateVertices
  refine Action.traces_bind (traces_onCanvas hlog hlist) fun _ => ?_
  refine Action.traces_bind Action.traces_get fun stage' => ?_
  refine Action.traces_bind (traces_log hlog _ _) fun _ => ?_
  refine Action.traces_bind (traces_onDevice (Watched.asks_watch ?_ _ _)) fun _ =>
    traces_onDevice (Watched.asks_watch ?_ _ _)
  · exact .inl ⟨a, _, h, rfl⟩
  · exact .inr ⟨_, rfl⟩

/-- What setting up comes to: the answer, the canvas and the calls. -/
inductive SetsUp (stage : Stage δ) (c : Config) :
    Except Fault (Except SetupError Unit) → Canvas → List DeviceCall → Prop
  | active (a : Active) (h : stage.canvas.active = some a) :
      SetsUp stage c (.ok (.error .alreadyValid)) stage.canvas []
  | invalid (e : SetupError) (h : stage.canvas.active = none) (hc : c.validate = .error e) :
      SetsUp stage c (.ok (.error e)) stage.canvas []
  | made (r : ResourceSet) (calls : List DeviceCall) (h : stage.canvas.active = none)
      (hc : c.validate = .ok ())
      (hcalls : ResourceSet.Acquires meshLayout stage.canvas.sheet.image (.ok (.ok r)) calls) :
      SetsUp stage c (.ok (.ok ())) (opened c r stage.canvas) calls
  | refused (e : DeviceError) (calls : List DeviceCall) (h : stage.canvas.active = none)
      (hc : c.validate = .ok ())
      (hcalls : ResourceSet.Acquires meshLayout stage.canvas.sheet.image (.ok (.error e)) calls) :
      SetsUp stage c (.ok (.error (.device e))) stage.canvas calls
  | stopped (fault : Fault) (calls : List DeviceCall) (h : stage.canvas.active = none)
      (hc : c.validate = .ok ())
      (hcalls : ResourceSet.Acquires meshLayout stage.canvas.sheet.image (.error fault) calls) :
      SetsUp stage c (.error fault) stage.canvas calls

theorem setsUp (stage : Stage δ) (c : Config) :
    SetsUp stage c ((setup c).run stage).result ((setup c).run stage).state.canvas
      (stage.calls (.command (.setup c))) := by
  have hlinked : Linked (fun (w : Watched δ) d => w.device = d) stage.watched stage := ⟨rfl, rfl⟩
  obtain ⟨hresult, hcanvas, -⟩ := setup_of_linked (simulates_watched _ _) c hlinked rfl
  have hcalls : stage.calls (.command (.setup c)) =
      ((setup c).run stage.watched).state.device.calls := by
    rw [calls, Operation.run, Command.run, Action.run_map]
  rw [← hresult, ← hcanvas, hcalls]
  cases h : stage.canvas.active with
  | some a =>
      have h' : stage.watched.canvas.active = some a := h
      rw [run_setup_of_active h']
      exact .active a h
  | none =>
  have h' : stage.watched.canvas.active = none := h
  cases hc : c.validate with
  | error e =>
      rw [run_setup_of_invalid h' hc]
      exact .invalid e h hc
  | ok u =>
  obtain ⟨calls, hmade, hacquires⟩ := ResourceSet.yields_acquire meshLayout
    stage.canvas.sheet.image stage.watched.device
  rcases hrun : (ResourceSet.acquire meshLayout stage.canvas.sheet.image).run
    stage.watched.device with ⟨fault | e | r, w, notes⟩
  all_goals
    rw [hrun] at hmade hacquires
    obtain rfl : w.calls = calls := hmade
  · rw [run_setup_of_fault h' hc hrun]
    exact .stopped fault _ h hc hacquires
  · rw [run_setup_of_refused h' hc hrun]
    exact .refused e _ h hc hacquires
  · obtain ⟨line, hsetup⟩ := run_setup_of_made h' hc hrun
    rw [hsetup]
    exact .made r _ h hc hacquires

/-- What discarding or letting go comes to: the canvas and the calls. -/
inductive Discards (stage : Stage δ) : Canvas → List DeviceCall → Prop
  | unset (h : stage.canvas.active = none) : Discards stage stage.canvas []
  | released (a : Active) (h : stage.canvas.active = some a) :
      Discards stage (closed stage.canvas)
        (ResourceSet.destructions a.resources.toList.reverse)
  | stuck (a : Active) (fault : Fault) (calls : List DeviceCall) (resource : Resource)
      (h : stage.canvas.active = some a) (hcall : ⟨.destroy resource, .error fault⟩ ∈ calls) :
      Discards stage { stage.canvas with active := none } calls

theorem discards_watched (stage : Stage δ) :
    Discards stage (discard.run stage.watched).state.canvas
      (discard.run stage.watched).state.device.calls := by
  cases h : stage.canvas.active with
  | none =>
      have h' : stage.watched.canvas.active = none := h
      obtain ⟨line, hdiscard⟩ := run_discard_of_unset h'
      rw [hdiscard]
      exact .unset h
  | some a =>
  have h' : stage.watched.canvas.active = some a := h
  obtain ⟨calls, hmade, hdestroys⟩ := ResourceSet.yields_release a.resources stage.watched.device
  rcases hrun : a.resources.release.run stage.watched.device with ⟨fault | u, w, notes⟩
  all_goals
    rw [hrun] at hmade hdestroys
    obtain rfl : w.calls = calls := hmade
  · rw [run_discard_of_fault h' hrun]
    obtain ⟨⟩ | ⟨_, resource, _, hcall⟩ := hdestroys
    exact .stuck a fault _ resource h hcall
  · obtain ⟨line, hdiscard⟩ := run_discard_of_released h' hrun
    rw [hdiscard]
    generalize w.calls = calls at hdestroys ⊢
    cases hdestroys
    exact .released a h

theorem discards_discard (stage : Stage δ) :
    Discards stage (Command.discard.run.run stage).state.canvas
      (stage.calls (.command .discard)) := by
  have hcanvas := (run_watched (.command .discard) stage).2.1
  simp only [Operation.run, Command.run, calls, Action.run_bind_pure] at hcanvas ⊢
  rw [← hcanvas]
  exact discards_watched stage

theorem discards_drop (stage : Stage δ) :
    Discards stage (Operation.drop.run.run stage).state.canvas (stage.calls .drop) := by
  rw [← (run_watched .drop stage).2.1, calls, Operation.run, Action.run_bind_pure]
  cases h : stage.canvas.active with
  | none =>
      have h' : stage.watched.canvas.active = none := h
      rw [run_drop_of_unset h']
      exact .unset h
  | some a =>
      have h' : stage.watched.canvas.active = some a := h
      rw [run_drop_of_active h']
      exact discards_watched stage

end Stage

end Mosaic
