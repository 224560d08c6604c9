import Mosaic.Proofs.Sheet.Cells
import Mosaic.Proofs.Stage.Chart
import Mosaic.Proofs.Stage.Mirror

/-!
# Misused canvases

A command has a contract: the canvas is set up, the tile lies on the grid, the slot is one of the
canvas, the sprite is on the sheet, and a text has a character for each tile of its block.
`Command.breach` is the first part of the contract that a command breaks, as the fault that reports
it. A command that breaks its contract stops with this fault and changes nothing, neither on the
canvas nor on the device. On a sheet that was cut into cells nothing else can go wrong on the
canvas, whatever names were asked for, so no command stops half way.
-/

namespace Mosaic

/-! ### Contracts -/

/-- The fault of a tile outside the grid. -/
def Config.tileFault (c : Config) (x y : Int) : Option Fault :=
  if (x, y) ∈ c.grid then none else some (.outsideGrid x y c.columns c.rows)

/-- The fault of a slot that the canvas does not have. -/
def Config.slotFault (c : Config) (slot : Nat) : Option Fault :=
  if slot < c.slots then none else some (.slotOutOfRange slot c.slots)

/-- The fault of a sprite that is not on the sheet. -/
def Sheet.spriteFault (sheet : Sheet) (shown : Option SpriteId) : Option Fault :=
  shown.bind fun id =>
    if sheet.Contains id then none else some (.offSheet id.index sheet.count)

/-- The fault of a block of negative size, or of a text that does not fill its block. -/
def Rect.textFault (target : Rect) (text : List Char) : Option Fault :=
  if target.width < 0 ∨ target.height < 0 then some (.negativeMap target.width target.height)
  else
    let needed := target.width.toNat * target.height.toNat
    if text.length = needed then none
    else some (.mapLength target.width target.height needed text.length)

namespace Stage

/-- The commands that ask for a canvas that is set up. -/
def Command.needsCanvas : Command → Bool
  | .setup _ | .discard | .vertices | .resources | .sheetCount => false
  | _ => true

/-- The first part of its contract that a command to a canvas that is set up breaks. -/
def Command.violation (config : Config) (sheet : Sheet) : Command → Option Fault
  | .tile x y => config.tileFault x y
  | .setTile shown x y => (config.tileFault x y).or (sheet.spriteFault shown)
  | .sprite slot => config.slotFault slot
  | .setSprite slot shown _ => (config.slotFault slot).or (sheet.spriteFault shown)
  | .copyText target text => target.textFault text
  | _ => none

/-- The first part of its contract that a command breaks. -/
def Command.breach (canvas : Canvas) (c : Command) : Option Fault :=
  if c.needsCanvas then
    match canvas.active with
    | none => some .canvasUnset
    | some a => c.violation a.config canvas.sheet
  else none

end Stage

/-! ### Checks -/

theorem Sheet.checkOption_of_fault {sheet : Sheet} {shown : Option SpriteId} {fault : Fault}
    (h : sheet.spriteFault shown = some fault) : sheet.checkOption shown = .error fault := by
  obtain ⟨id, rfl, hid⟩ := Option.bind_eq_some_iff.1 h
  split at hid
  · cases hid
  · rename_i hcontains
    cases hid
    rw [checkOption, check, if_neg hcontains]

theorem Sheet.checkOption_of_none {sheet : Sheet} {shown : Option SpriteId}
    (h : sheet.spriteFault shown = none) : sheet.checkOption shown = .ok () := by
  rw [checkOption_eq_ok_iff]
  rintro id rfl
  simpa [spriteFault] using h

namespace Canvas

variable {canvas : Canvas} {a : Active} {fault : Fault}

theorem config_of_unset (h : canvas.active = none) : canvas.config = .error .canvasUnset := by
  rw [config, requireActive, h]
  rfl

theorem tileIndex_of_unset (h : canvas.active = none) (x y : Int) :
    canvas.tileIndex x y = .error .canvasUnset := by
  rw [tileIndex, config_of_unset h]
  rfl

theorem checkSlot_of_unset (h : canvas.active = none) (slot : Nat) :
    canvas.checkSlot slot = .error .canvasUnset := by
  rw [checkSlot, config_of_unset h]
  rfl

theorem tileIndex_of_fault (h : canvas.active = some a) {x y : Int}
    (hfault : a.config.tileFault x y = some fault) : canvas.tileIndex x y = .error fault := by
  unfold Config.tileFault at hfault
  split at hfault
  · cases hfault
  · rename_i hgrid
    cases hfault
    rw [Config.mem_grid] at hgrid
    simp only [tileIndex, config_of_active h, bind, Except.bind, if_neg hgrid]

theorem mem_grid_of_none {c : Config} {x y : Int} (h : c.tileFault x y = none) :
    (x, y) ∈ c.grid := by
  unfold Config.tileFault at h
  split at h
  · assumption
  · cases h

theorem tileIndex_of_none (h : canvas.active = some a) {x y : Int}
    (hnone : a.config.tileFault x y = none) :
    canvas.tileIndex x y = .ok (a.config.index x y) :=
  (tileIndex_eq_ok_iff h).2 ⟨Config.mem_grid.1 (mem_grid_of_none hnone), rfl⟩

theorem checkSlot_of_fault (h : canvas.active = some a) {slot : Nat}
    (hfault : a.config.slotFault slot = some fault) : canvas.checkSlot slot = .error fault := by
  unfold Config.slotFault at hfault
  split at hfault
  · cases hfault
  · rename_i hslot
    cases hfault
    simp only [checkSlot, config_of_active h, bind, Except.bind, if_neg hslot]

theorem checkSlot_of_none (h : canvas.active = some a) {slot : Nat}
    (hnone : a.config.slotFault slot = none) : canvas.checkSlot slot = .ok () := by
  rw [checkSlot_eq_ok_iff h]
  simpa [Config.slotFault] using hnone

theorem run_copyText_of_fault (h : canvas.active = some a) {target : Rect} {text : List Char}
    (hfault : target.textFault text = some fault) :
    (copyText target text).run canvas = ⟨.error fault, canvas, []⟩ := by
  unfold Rect.textFault at hfault
  simp only [copyText, Action.run_query_bind, bounds_of_active h]
  split at hfault
  · rename_i hsign
    cases hfault
    rw [if_pos hsign]
    rfl
  · rename_i hsign
    dsimp only at hfault
    split at hfault
    · cases hfault
    · rename_i hlength
      cases hfault
      rw [if_neg hsign, if_pos hlength]
      rfl

theorem size_of_none {target : Rect} {text : List Char} (h : target.textFault text = none) :
    (0 ≤ target.width ∧ 0 ≤ target.height) ∧
      text.length = target.width.toNat * target.height.toNat := by
  unfold Rect.textFault at h
  split at h
  · cases h
  · rename_i hsign
    dsimp only at h
    split at h
    · exact ⟨by omega, by assumption⟩
    · cases h

/-- The vertices of a canvas on a reliable sheet can be listed. -/
theorem run_updateVertices_of_reliable (ha : canvas.active = some a)
    (hsound : canvas.Sound) (hsheet : canvas.sheet.Reliable) :
    ∃ listed, updateVertices.run canvas = ⟨.ok (), listed, []⟩ := by
  obtain hok | ⟨id, fault, hshows, hfault, -⟩ := updateVertices_result_cases ha hsound
  · rw [run_updateVertices ha hsound] at hok ⊢
    dsimp only at hok
    rw [hok]
    exact ⟨_, rfl⟩
  · obtain ⟨uv, huv⟩ := hsheet.placed id (hsound.onSheet id hshows)
    rw [hfault] at huv
    cases huv

end Canvas

namespace Stage

variable {δ : Type} {stage : Stage δ} {a : Active} {c : Command} {fault : Fault}

/-! ### Commands that break their contract -/

theorem result_edit {action : Action Canvas Unit} {canvas : Canvas} {notes : List Note}
    (h : action.run stage.canvas = ⟨.ok (), canvas, notes⟩) :
    ∃ reply, ((do onCanvas action; return Reply.done : Action (Stage δ) Reply).run stage).result =
      .ok reply := by
  rw [run_edit, h]
  exact ⟨.done, rfl⟩

theorem active_of_none (h : c.breach stage.canvas = none) (hneeds : c.needsCanvas = true) :
    ∃ a, stage.canvas.active = some a ∧ c.violation a.config stage.canvas.sheet = none := by
  cases ha : stage.canvas.active with
  | none => simp [Command.breach, hneeds, ha] at h
  | some a => exact ⟨a, rfl, by simpa [Command.breach, hneeds, ha] using h⟩


theorem run_answer {α : Type} (reply : α → Reply) (question : Canvas → Except Fault α)
    (stage : Stage δ) :
    (answer reply question).run stage = ⟨reply <$> question stage.canvas, stage, []⟩ :=
  Action.run_query _ stage

theorem run_edit_of_error {action : Action Canvas Unit}
    (h : action.run stage.canvas = ⟨.error fault, stage.canvas, []⟩) :
    (do onCanvas action; return Reply.done : Action (Stage δ) Reply).run stage =
      ⟨.error fault, stage, []⟩ := by
  rw [run_edit, h]
  rfl

variable [Device δ]

/-- A canvas that is not set up refuses every command that asks for one that is. -/
theorem run_of_unset (h : stage.canvas.active = none) (hneeds : c.needsCanvas = true) :
    c.run.run stage = ⟨.error .canvasUnset, stage, []⟩ := by
  have hconfig := Canvas.config_of_unset h
  cases c with
  | setup | discard | vertices | resources | sheetCount => cases hneeds
  | config | geometry | clamp | tile | grid | occupied | sprite | activeSprites =>
      rw [Command.run, run_answer]
      simp [Stage.geometry, Canvas.clampX, Canvas.tile, Canvas.tileIndex, Canvas.grid,
        Canvas.occupied, Canvas.sprite, Canvas.checkSlot, Canvas.activeSprites, hconfig, bind,
        Except.bind]
  | copyText target text => exact run_edit_of_error (Canvas.run_copyText_of_unset h target text)
  | setTile shown x y =>
      refine run_edit_of_error ?_
      simp only [Canvas.setTile, Action.run_query_bind, Canvas.tileIndex_of_unset h]
  | setSprite slot shown bounds =>
      refine run_edit_of_error ?_
      simp only [Canvas.setSprite, Action.run_query_bind, Canvas.checkSlot_of_unset h]
  | clear =>
      refine run_edit_of_error ?_
      simp [Canvas.clear, Action.run_query_bind, Canvas.requireActive, h]
  | updateVertices =>
      have hrun : Canvas.updateVertices.run stage.canvas =
          ⟨.error .canvasUnset, stage.canvas, []⟩ := by
        simp [Canvas.updateVertices, Action.run_query_bind, hconfig]
      rw [Command.run, Action.run_bind_of_error]
      rw [onCanvas, Action.run_part, hrun]
  | render =>
      rw [Command.run, Action.run_bind_pure, run_render_of_unset h]
      rfl

/-- A command that breaks its contract stops with the fault that reports it, and changes nothing. -/
theorem run_of_breach (h : c.breach stage.canvas = some fault) :
    c.run.run stage = ⟨.error fault, stage, []⟩ := by
  unfold Command.breach at h
  split at h
  case isFalse => cases h
  case isTrue hneeds =>
  cases ha : stage.canvas.active with
  | none =>
      rw [ha] at h
      cases h
      exact run_of_unset ha hneeds
  | some a =>
      rw [ha] at h
      dsimp only at h
      cases c with
      | tile x y =>
          rw [Command.run, run_answer, Canvas.tile, Canvas.tileIndex_of_fault ha h]
          rfl
      | sprite slot =>
          rw [Command.run, run_answer, Canvas.sprite, Canvas.checkSlot_of_fault ha h]
          rfl
      | copyText target text => exact run_edit_of_error (Canvas.run_copyText_of_fault ha h)
      | setTile shown x y =>
          refine run_edit_of_error ?_
          obtain htile | ⟨hnone, hsprite⟩ := Option.or_eq_some_iff.1 h
          · simp only [Canvas.setTile, Action.run_query_bind, Canvas.tileIndex_of_fault ha htile]
          · simp only [Canvas.setTile, Action.run_query_bind, Canvas.tileIndex_of_none ha hnone,
              Sheet.checkOption_of_fault hsprite]
      | setSprite slot shown bounds =>
          refine run_edit_of_error ?_
          obtain hslot | ⟨hnone, hsprite⟩ := Option.or_eq_some_iff.1 h
          · simp only [Canvas.setSprite, Action.run_query_bind, Canvas.checkSlot_of_fault ha hslot]
          · simp only [Canvas.setSprite, Action.run_query_bind, Canvas.checkSlot_of_none ha hnone,
              Sheet.checkOption_of_fault hsprite]
      | _ => cases h

/-! ### Commands that keep their contract -/

/-- On a reliable sheet, a command that keeps its contract and asks nothing of the device
answers. -/
theorem result_of_none (hsound : stage.canvas.Sound) (hsheet : stage.canvas.sheet.Reliable)
    (hasks : ¬ c.AsksDevice) (h : c.breach stage.canvas = none) :
    ∃ reply, (c.run.run stage).result = .ok reply := by
  by_cases hneeds : c.needsCanvas = true
  case neg =>
    cases c with
    | vertices | resources | sheetCount => exact ⟨_, rfl⟩
    | setup | discard => exact absurd trivial hasks
    | _ => exact absurd rfl hneeds
  case pos =>
    obtain ⟨a, ha, hviolation⟩ := active_of_none h hneeds
    have hfits := hsound.fits a ha
    have hready : stage.canvas.Ready a.config := ⟨⟨a, ha, rfl⟩, hfits.valid, hsheet.closed⟩
    cases c with
    | setup | discard | render => exact absurd trivial hasks
    | vertices | resources | sheetCount => cases hneeds
    | config =>
        rw [Command.run, run_answer, Canvas.config_of_active ha]
        exact ⟨_, rfl⟩
    | geometry =>
        rw [Command.run, run_answer]
        simp only [Stage.geometry, Canvas.width, Canvas.height, Canvas.bounds_of_active ha,
          Canvas.config_of_active ha, bind, Except.bind, Config.width_of_valid hfits.valid,
          Config.height_of_valid hfits.valid]
        exact ⟨_, rfl⟩
    | clamp x y =>
        rw [Command.run, run_answer]
        simp only [hready.clampX, hready.clampY, bind, Except.bind]
        exact ⟨_, rfl⟩
    | tile x y =>
        rw [Command.run, run_answer, Canvas.tile, Canvas.tileIndex_of_none ha hviolation]
        exact ⟨_, rfl⟩
    | grid =>
        obtain ⟨lines, hlines, -⟩ := hready.grid (hsound.cells_le_size ha)
        rw [Command.run, run_answer, hlines]
        exact ⟨_, rfl⟩
    | occupied =>
        rw [Command.run, run_answer, Canvas.occupied_eq ha hfits hsound.size_tiles]
        exact ⟨_, rfl⟩
    | sprite slot =>
        rw [Command.run, run_answer, Canvas.sprite, Canvas.checkSlot_of_none ha hviolation]
        exact ⟨_, rfl⟩
    | activeSprites =>
        rw [Command.run, run_answer, Canvas.activeSprites_eq ha (hsound.slots_le_size ha)]
        exact ⟨_, rfl⟩
    | copyText target text =>
        obtain ⟨hsize, hlength⟩ := Canvas.size_of_none hviolation
        obtain ⟨_, _, hrun, -⟩ :=
          Canvas.run_copyText_of_closed ha hsound hsheet.closed hsize hlength
        exact result_edit hrun
    | setTile shown x y =>
        obtain ⟨htile, hsprite⟩ := Option.or_eq_none_iff.1 hviolation
        exact result_edit (Canvas.run_setTile_of_ok (Canvas.tileIndex_of_none ha htile)
          (Sheet.checkOption_of_none hsprite))
    | setSprite slot shown bounds =>
        obtain ⟨hslot, hsprite⟩ := Option.or_eq_none_iff.1 hviolation
        exact result_edit (Canvas.run_setSprite_of_ok bounds
          (Canvas.checkSlot_of_none ha hslot) (Sheet.checkOption_of_none hsprite))
    | clear => exact result_edit (Canvas.run_clear_of_active ha)
    | updateVertices =>
        obtain ⟨canvas, hrun⟩ := Canvas.run_updateVertices_of_reliable ha hsound hsheet
        have hupdate : (onCanvas Canvas.updateVertices).run stage =
            ⟨.ok (), { stage with canvas := canvas }, []⟩ := by
          rw [onCanvas, Action.run_part, hrun]
        rw [Command.run, Action.run_bind_of_silent hupdate, run_answer]
        exact ⟨_, rfl⟩

/-! ### Recorders -/

theorem result_render_of_reliable {stage : Stage Recorder} (ha : stage.canvas.active = some a)
    (hsound : stage.canvas.Sound) (hsheet : stage.canvas.sheet.Reliable) :
    (render.run stage).result = .ok () := by
  obtain ⟨canvas, hrun⟩ := Canvas.run_updateVertices_of_reliable ha hsound hsheet
  have hupload := Recorder.result_upload a.resources.mesh canvas.arena.bytes stage.device
  rcases hup : (Recorder.upload a.resources.mesh canvas.arena.bytes).run stage.device with
    ⟨result, r, notes⟩
  rw [hup] at hupload
  cases hupload
  let call : DrawCall := ⟨a.resources.drawState, a.resources.texture, canvas.vertexCount⟩
  have hdraw := Recorder.result_draw call r
  rcases hdrawn : (Recorder.draw call).run r with ⟨result, r', more⟩
  rw [hdrawn] at hdraw
  cases hdraw
  obtain ⟨line, hrender⟩ := run_render_of_ok ha hrun hup hdrawn
  rw [hrender]

/-- On a recorder, setting up stops only when the numbers of resources run out. -/
theorem lastId_of_setup_fault {stage : Stage Recorder} {config : Config} {fault : Fault}
    (h : ((setup config).run stage).result = .error fault) :
    Bounded.Width.bits32.count ≤ stage.device.lastId + 4 := by
  have hsets := setsUp stage config
  have hserves := serves_calls (.command (.setup config)) stage
  rw [h] at hsets
  generalize stage.calls (.command (.setup config)) = calls at hsets hserves
  generalize ((setup config).run stage).state.canvas = canvas at hsets
  cases hsets with
  | stopped _ calls _ _ hcalls =>
  cases hcalls with
  | stuck _ ρ _ hstuck => exact absurd hstuck (not_stuck hserves)
  | stopped set k request _ hrequest =>
  obtain ⟨-, hnumber | ⟨layout, rfl, hsize⟩⟩ :=
    hserves.stop (List.mem_append_right _ (List.mem_singleton_self _)) rfl
  · have hk : k < 4 := (List.getElem?_eq_some_iff.1 hrequest).1
    have hlength := List.countP_le_length (p := DeviceCall.spends)
      (l := (set.creations meshLayout stage.canvas.sheet.image).take k ++ [⟨request, .error fault⟩])
    rw [List.length_append, List.length_take, List.length_singleton] at hlength
    omega
  · rw [set.layout_of_mem_requests (List.mem_of_getElem? hrequest)] at hsize
    cases hsize

/-- What a command that stops on a recorder comes to. -/
theorem recorder_stop_cases {stage : Stage Recorder} (hsound : stage.canvas.Sound)
    (hsheet : stage.canvas.sheet.Reliable) {c : Command} {fault : Fault}
    (h : (c.run.run stage).result = .error fault) :
    c.breach stage.canvas = some fault ∨
      (∃ config, c = .setup config) ∧ Bounded.Width.bits32.count ≤ stage.device.lastId + 4 := by
  cases hbreach : c.breach stage.canvas with
  | some broken =>
      rw [run_of_breach hbreach] at h
      cases h
      exact .inl rfl
  | none =>
  by_cases hasks : c.AsksDevice
  case neg =>
    obtain ⟨reply, hreply⟩ := result_of_none hsound hsheet hasks hbreach
    rw [hreply] at h
    cases h
  case pos =>
    cases c with
    | setup config =>
        rw [Command.run, Action.run_map] at h
        cases hresult : ((setup config).run stage).result with
        | ok u =>
            rw [hresult] at h
            cases h
        | error stop => exact .inr ⟨⟨config, rfl⟩, lastId_of_setup_fault hresult⟩
    | discard =>
        rw [Command.run, Action.run_bind_pure, result_discard] at h
        cases h
    | render =>
        obtain ⟨a, ha, -⟩ := active_of_none hbreach rfl
        rw [Command.run, Action.run_bind_pure, result_render_of_reliable ha hsound hsheet] at h
        cases h
    | _ => exact hasks.elim

/-- Misuse leaves everything as it was. Take a sheet that is cut from an image and then named by any
requests, of which the sheet may refuse some: its names lead to its own sprites. In every state of a
run of a canvas over it, on any device, a command that breaks its contract stops with the fault that
reports it, and leaves the canvas and the device as they were. A command that asks nothing of the
device stops for no other reason, so no text is left half copied. On a recorder the same holds of
all commands, but that setting up also stops when the numbers for resources run out. -/
theorem misuse_leaves_intact {image : Image} {width height : Nat} {g : GridSheet}
    (hcut : GridSheet.cut image width height = .ok (.ok g))
    (hwidth : image.width < Bounded.Width.bits32.count)
    (hheight : image.height < Bounded.Width.bits32.count) (namings : List GridSheet.Naming) :
    let sheet := (g.named namings).toSheet
    (∀ name id, sheet.spriteFor name = some id → sheet.Contains id) ∧
      (∀ {δ : Type} [Device δ] (device : δ) (events : List (Event δ)) (stage : Stage δ),
        (fresh sheet device).after events = stage → ∀ (c : Command) (fault : Fault),
          (c.breach stage.canvas = some fault → c.run.run stage = ⟨.error fault, stage, []⟩) ∧
          ((c.run.run stage).result = .error fault → ¬ c.AsksDevice →
            c.breach stage.canvas = some fault ∧ (c.run.run stage).state = stage)) ∧
      ∀ (recorder : Recorder) (events : List (Event Recorder)) (stage : Stage Recorder),
        (fresh sheet recorder).after events = stage → ∀ (c : Command) (fault : Fault),
          (c.run.run stage).result = .error fault →
            (c.breach stage.canvas = some fault ∧ (c.run.run stage).state = stage) ∨
              (∃ config, c = .setup config) ∧
                Bounded.Width.bits32.count ≤ stage.device.lastId + 4 := by
  intro sheet
  have hsheet : sheet.Reliable := GridSheet.reliable_named hcut hwidth hheight namings
  have hstate : ∀ {δ : Type} [Device δ] {stage : Stage δ} {c : Command} {fault : Fault},
      c.breach stage.canvas = some fault → (c.run.run stage).state = stage := by
    intro δ _ stage c fault h
    rw [run_of_breach h]
  refine ⟨hsheet.closed, ?_, ?_⟩
  · intro δ _ device events stage hstage c fault
    have hsound : stage.canvas.Sound := hstage ▸ sound_after sheet device events
    have hkept : stage.canvas.sheet = sheet := hstage ▸ sheet_after (fresh sheet device) events
    refine ⟨run_of_breach, fun h hasks => ?_⟩
    cases hbreach : c.breach stage.canvas with
    | none =>
        obtain ⟨reply, hreply⟩ := result_of_none hsound (hkept ▸ hsheet) hasks hbreach
        rw [hreply] at h
        cases h
    | some broken =>
        refine ⟨?_, hstate hbreach⟩
        rw [run_of_breach hbreach] at h
        cases h
        rfl
  · intro recorder events stage hstage c fault h
    have hsound : stage.canvas.Sound := hstage ▸ sound_after sheet recorder events
    have hkept : stage.canvas.sheet = sheet := hstage ▸ sheet_after (fresh sheet recorder) events
    exact (recorder_stop_cases hsound (hkept ▸ hsheet) h).imp_left fun hbreach =>
      ⟨hbreach, hstate hbreach⟩

/-- Two sprites without names. -/
def plainSheet : GridSheet := { tokenSheet with names := .empty }

/-- Requests for names of which the second is refused, and the third as well, at its last name. -/
def tokenNamings : List GridSheet.Naming :=
  [.char 'o' ⟨1⟩, .char 'x' ⟨7⟩, .text ['a', 'b', 'c'] ⟨0⟩]

theorem misuse_leaves_intact_tokenRun :
    let sheet := (plainSheet.named tokenNamings).toSheet
    let stage := (fresh sheet Recorder.fresh).after tokenRun
    let c : Command := .copyText ⟨-1, 0, 3, 2⟩ ['o', 'o', '.', 'o']
    let later := stage.after [.command .discard]
    (sheet.spriteFor 'o' = some ⟨1⟩ ∧ sheet.spriteFor 'x' = none ∧ sheet.spriteFor 'a' = none) ∧
      stage.canvas.tile 1 1 = .ok (some ⟨1⟩) ∧
      c.run.run stage = ⟨.error (.mapLength 3 2 6 4), stage, []⟩ ∧
      c.run.run later = ⟨.error .canvasUnset, later, []⟩ := by
  intro sheet stage c later
  have hcut : GridSheet.cut plainSheet.image 1 1 = .ok (.ok plainSheet) := rfl
  obtain ⟨-, hmisuse, -⟩ :=
    misuse_leaves_intact hcut (by decide) (by decide) tokenNamings
  have hbreach : c.breach stage.canvas = some (.mapLength 3 2 6 4) := by decide +kernel
  have hbreach' : c.breach later.canvas = some .canvasUnset := by decide +kernel
  refine ⟨by decide +kernel, by decide +kernel, ?_, ?_⟩
  · exact (hmisuse Recorder.fresh tokenRun stage rfl c _).1 hbreach
  · have hlater : (fresh sheet Recorder.fresh).after (tokenRun ++ [.command .discard]) = later :=
      List.foldl_append ..
    exact (hmisuse Recorder.fresh _ later hlater c _).1 hbreach'

end Stage

end Mosaic
