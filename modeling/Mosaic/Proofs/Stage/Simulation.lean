import Mosaic.Proofs.Action.Match
import Mosaic.Proofs.Stage.Operation

/-!
# One device in place of another

When a relation between the states of two devices is kept by every operation of a canvas's device,
with equal answers (`Device.Simulates`), it is kept by every command to the canvas: the canvases
stay equal, and each command comes to the same reply or fault on either device
(`command_of_linked`).
-/

namespace Mosaic

/-- Each operation of two devices comes to the same answer in related states and leaves them
related. Only meshes of one layout and textures of one image are asked for. -/
structure Device.Simulates {δ ε : Type} [Device δ] [Device ε] (R : δ → ε → Prop)
    (layout : MeshLayout) (image : Image) : Prop where
  createMesh : Action.Matches R (Device.createMesh layout) (Device.createMesh layout)
  createProgram : Action.Matches R Device.createProgram Device.createProgram
  createDrawState : ∀ mesh program, Action.Matches R (Device.createDrawState mesh program)
    (Device.createDrawState mesh program)
  createTexture : Action.Matches R (Device.createTexture image) (Device.createTexture image)
  destroy : ∀ resource, Action.Matches R (Device.destroy resource) (Device.destroy resource)
  upload : ∀ mesh bytes, Action.Matches R (Device.upload mesh bytes) (Device.upload mesh bytes)
  draw : ∀ call, Action.Matches R (Device.draw call) (Device.draw call)

variable {δ ε : Type} {R : δ → ε → Prop}

namespace ResourceSet

variable [Device δ] [Device ε] {layout : MeshLayout} {image : Image}

theorem matches_abandon (hR : Device.Simulates R layout image) (made : List Resource)
    (e : DeviceError) : Action.Matches R (abandon made e) (abandon made e) := by
  refine Action.matches_bind (Action.matches_each fun resource _ => ?_) fun _ =>
    Action.matches_pure _
  exact Action.matches_bind (Action.matches_note _ _) fun _ => hR.destroy resource

theorem matches_acquire (hR : Device.Simulates R layout image) :
    Action.Matches R (acquire layout image) (acquire layout image) := by
  refine Action.matches_bind hR.createMesh fun mesh => ?_
  cases mesh with
  | error e => exact matches_abandon hR _ e
  | ok mesh =>
  refine Action.matches_bind hR.createProgram fun program => ?_
  cases program with
  | error e => exact matches_abandon hR _ e
  | ok program =>
  refine Action.matches_bind (hR.createDrawState mesh program) fun drawState => ?_
  cases drawState with
  | error e => exact matches_abandon hR _ e
  | ok drawState =>
  refine Action.matches_bind hR.createTexture fun texture => ?_
  cases texture with
  | error e => exact matches_abandon hR _ e
  | ok texture => exact Action.matches_pure _

theorem matches_release (hR : Device.Simulates R layout image) (resources : ResourceSet) :
    Action.Matches R resources.release resources.release := by
  refine Action.matches_bind (hR.destroy _) fun _ => ?_
  refine Action.matches_bind (hR.destroy _) fun _ => ?_
  exact Action.matches_bind (hR.destroy _) fun _ => hR.destroy _

end ResourceSet

namespace Stage

/-- The canvases are the same and the devices are related. -/
def Linked (R : δ → ε → Prop) (first : Stage δ) (second : Stage ε) : Prop :=
  first.canvas = second.canvas ∧ R first.device second.device

theorem matches_onCanvas {α : Type} (action : Action Canvas α) :
    Action.Matches (Linked R) (onCanvas action) (onCanvas action) := by
  rintro ⟨canvas, device⟩ ⟨canvas', device'⟩ ⟨rfl, h⟩
  exact ⟨rfl, rfl, h⟩

theorem matches_onDevice {α : Type} {first : Action δ α} {second : Action ε α}
    (h : Action.Matches R first second) :
    Action.Matches (Linked R) (onDevice first) (onDevice second) := by
  rintro ⟨canvas, device⟩ ⟨canvas', device'⟩ ⟨rfl, hdevice⟩
  obtain ⟨hresult, hstate⟩ := h device device' hdevice
  exact ⟨hresult, rfl, hstate⟩

theorem matches_answer {α : Type} (reply : α → Reply) (question : Canvas → Except Fault α) :
    Action.Matches (Linked R) (answer reply question) (answer reply question) :=
  Action.matches_query fun s t h => by rw [h.1]

theorem matches_edit (action : Action Canvas Unit) :
    Action.Matches (Linked R) (do onCanvas action; return Reply.done)
      (do onCanvas action; return Reply.done) :=
  Action.matches_bind (matches_onCanvas action) fun _ => Action.matches_pure _

variable [Device δ] [Device ε] {image : Image}

/-- Where the canvases have a sheet with the image whose texture can be asked for. -/
theorem setup_of_linked (hR : Device.Simulates R meshLayout image) (c : Config) {s : Stage δ}
    {t : Stage ε} (h : Linked R s t) (himage : s.canvas.sheet.image = image) :
    ((setup c).run s).result = ((setup c).run t).result ∧
      Linked R ((setup c).run s).state ((setup c).run t).state := by
  rw [setup, setup, Action.run_get_bind, Action.run_get_bind, ← h.1, himage]
  refine (?_ : Action.Matches (Linked R) _ _) s t h
  split
  · exact Action.matches_pure _
  · cases c.validate with
    | error e => exact Action.matches_pure _
    | ok u =>
        have hacquire := matches_onDevice (ResourceSet.matches_acquire hR)
        refine Action.matches_bind hacquire fun made => ?_
        cases made with
        | error e => exact Action.matches_pure _
        | ok resources =>
            refine Action.matches_bind (matches_onCanvas _) fun _ => ?_
            refine Action.matches_bind (Action.matches_ofExcept _) fun width => ?_
            refine Action.matches_bind (Action.matches_ofExcept _) fun height => ?_
            exact Action.matches_bind (Action.matches_note _ _) fun _ => Action.matches_pure _

theorem matches_discard (hR : Device.Simulates R meshLayout image) :
    Action.Matches (Linked R) discard discard := by
  refine Action.matches_get_bind fun s t h => ?_
  rw [h.1]
  cases t.canvas.active with
  | none => exact Action.matches_note _ _
  | some a =>
      refine Action.matches_bind (matches_onCanvas _) fun _ => ?_
      refine Action.matches_bind (matches_onDevice (ResourceSet.matches_release hR _)) fun _ => ?_
      exact Action.matches_bind (matches_onCanvas _) fun _ => Action.matches_note _ _

theorem matches_drop (hR : Device.Simulates R meshLayout image) :
    Action.Matches (Linked R) drop drop := by
  refine Action.matches_get_bind fun s t h => ?_
  rw [h.1]
  split
  · exact matches_discard hR
  · exact Action.matches_pure _

theorem matches_render (hR : Device.Simulates R meshLayout image) :
    Action.Matches (Linked R) render render := by
  refine Action.matches_bind (matches_onCanvas _) fun a => ?_
  refine Action.matches_bind (matches_onCanvas _) fun _ => ?_
  refine Action.matches_get_bind fun s t h => ?_
  rw [h.1]
  refine Action.matches_bind (Action.matches_note _ _) fun _ => ?_
  exact Action.matches_bind (matches_onDevice (hR.upload _ _)) fun _ =>
    matches_onDevice (hR.draw _)

/-- A command that stays on the canvas comes to the same whatever the devices. -/
theorem matches_command {c : Command} (h : ¬ c.AsksDevice) :
    Action.Matches (Linked R) c.run c.run := by
  cases c with
  | setup | discard | render => exact absurd trivial h
  | copyText _ _ | setTile _ _ _ | setSprite _ _ _ | clear => exact matches_edit _
  | updateVertices =>
      exact Action.matches_bind (matches_onCanvas _) fun _ => matches_answer _ _
  | config | geometry | clamp | tile | grid | occupied | sprite | activeSprites | vertices
  | resources | sheetCount => exact matches_answer _ _

/-- On canvases with a sheet of the image, a command comes to the same reply or fault. -/
theorem command_of_linked (hR : Device.Simulates R meshLayout image) (c : Command) {s : Stage δ}
    {t : Stage ε} (h : Linked R s t) (himage : s.canvas.sheet.image = image) :
    (c.run.run s).result = (c.run.run t).result ∧
      Linked R (c.run.run s).state (c.run.run t).state := by
  by_cases hasks : c.AsksDevice
  · cases c with
    | setup c =>
        obtain ⟨hresult, hstate⟩ := setup_of_linked hR c h himage
        rw [Command.run, Command.run, Action.run_map, Action.run_map, hresult]
        exact ⟨rfl, hstate⟩
    | discard =>
        exact Action.matches_bind (matches_discard hR) (fun _ => Action.matches_pure _) s t h
    | render =>
        exact Action.matches_bind (matches_render hR) (fun _ => Action.matches_pure _) s t h
    | _ => exact hasks.elim
  · exact matches_command hasks s t h

end Stage

end Mosaic
