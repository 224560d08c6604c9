import Mosaic.Proofs.Device.Turnover
import Mosaic.Proofs.Stage.Calls

/-!
# What a canvas holds on a recorder

`Stage.Handles` lists what an operation of a canvas on a recorder can come to, as far as the
resources of the canvas go: it shows the canvas, makes its four resources, fails to make them, or
destroys them. Everything about the ownership of resources over a run is derived from this list.
-/

namespace Mosaic

namespace Stage

/-- The number of bytes of the mesh of a canvas. -/
def meshBytes : Nat := Limits.vertices * Vertex.stride

theorem byteSize_meshLayout : meshLayout.byteSize = .ok meshBytes := rfl

/-- What an operation makes of what the canvas holds, with the calls that it makes. -/
inductive Handles (stage : Stage Recorder) : Option Active → List DeviceCall → Prop
  /-- The canvas is shown, or nothing is asked of the recorder. -/
  | shown (calls : List DeviceCall) (h : ∀ call ∈ calls, stage.Shows call.request) :
      Handles stage stage.canvas.active calls
  | opened (c : Config) (set : ResourceSet) (h : stage.canvas.active = none) :
      Handles stage (some ⟨c, set⟩) (set.creations meshLayout stage.canvas.sheet.image)
  | refused (set : ResourceSet) (k : Nat) (request : DeviceRequest) (e : DeviceError)
      (h : stage.canvas.active = none)
      (hrequest : (set.requests meshLayout stage.canvas.sheet.image)[k]? = some request) :
      Handles stage none (set.abandoned meshLayout stage.canvas.sheet.image k request e)
  | stopped (set : ResourceSet) (k : Nat) (request : DeviceRequest) (fault : Fault)
      (h : stage.canvas.active = none)
      (hrequest : (set.requests meshLayout stage.canvas.sheet.image)[k]? = some request) :
      Handles stage none ((set.creations meshLayout stage.canvas.sheet.image).take k ++
        [⟨request, .error fault⟩])
  | closed (a : Active) (h : stage.canvas.active = some a) :
      Handles stage none (ResourceSet.destructions a.resources.toList.reverse)

variable {stage : Stage Recorder}

/-- A recorder does not stop at a destruction. -/
theorem not_stuck {r r' : Recorder} {calls : List DeviceCall} (h : Device.Serves r calls r')
    {ρ : Resource} {fault : Fault} : ⟨.destroy ρ, .error fault⟩ ∉ calls := by
  intro hcall
  obtain ⟨hcreation, -⟩ := h.stop hcall rfl
  cases hcreation

theorem handles_of_setsUp {c : Config} {result : Except Fault (Except SetupError Unit)}
    {canvas : Canvas} {calls : List DeviceCall} {r' : Recorder}
    (h : SetsUp stage c result canvas calls) (hserves : Device.Serves stage.device calls r') :
    Handles stage canvas.active calls := by
  cases h with
  | active | invalid => exact .shown [] nofun
  | made set calls hactive hc hcalls =>
      cases hcalls
      exact .opened c set hactive
  | refused e calls hactive hc hcalls =>
      obtain _ | ⟨set, k, request, _, hrequest⟩ := hcalls
      rw [hactive]
      exact .refused set k request e hactive hrequest
  | stopped fault calls hactive hc hcalls =>
      rw [hactive]
      cases hcalls with
      | stopped set k request _ hrequest => exact .stopped set k request fault hactive hrequest
      | stuck _ ρ _ hstuck => exact absurd hstuck (not_stuck hserves)

theorem handles_of_discards {canvas : Canvas} {calls : List DeviceCall} {r' : Recorder}
    (h : Discards stage canvas calls) (hserves : Device.Serves stage.device calls r') :
    Handles stage canvas.active calls := by
  cases h with
  | unset => exact .shown [] nofun
  | released a hactive => exact .closed a hactive
  | stuck a fault calls ρ hactive hcall => exact absurd hcall (not_stuck hserves)

/-- What an operation of a canvas on a recorder comes to. -/
theorem handles (stage : Stage Recorder) (op : Operation) :
    Handles stage (op.run.run stage).state.canvas.active (stage.calls op) := by
  have hserves := serves_calls op stage
  cases op with
  | drop => exact handles_of_discards (discards_drop stage) hserves
  | command c =>
      by_cases hsetup : ∃ g, c = .setup g
      · obtain ⟨g, rfl⟩ := hsetup
        rw [Operation.run, Command.run, Action.run_map]
        exact handles_of_setsUp (setsUp stage g) hserves
      by_cases hdiscard : c = .discard
      · subst hdiscard
        exact handles_of_discards (discards_discard stage) hserves
      have hactive : ((Command.run c).run stage).state.canvas.active = stage.canvas.active :=
        active_command (fun g e => hsetup ⟨g, e⟩) hdiscard stage
      rw [Operation.run, hactive]
      refine .shown _ fun call hcall => ?_
      by_cases hrender : c = .render
      · subst hrender
        exact calls_render stage call hcall
      · have hsilent : ¬ c.AsksDevice := by
          cases c <;> first | exact id | simp_all
        rw [calls_of_not_asksDevice hsilent] at hcall
        cases hcall

end Stage

end Mosaic
