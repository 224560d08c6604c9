import Mosaic.Device.Recorder
import Mosaic.Gpu.Device
import Mosaic.Proofs.Stage.Calls

/-!
# What a graphics processor shows

A `Processor` obeys the commands that are noted for it. Bytes written to a mesh replace its first
bytes and leave the rest, so a mesh may hold what an earlier, longer writing left. A draw reads the
mesh when its pass is handed over. A `Screen` is a stage with a queueing device together with the
processor, on which every rendering is encoded at once.
-/

namespace Mosaic

/-- A graphics processor. -/
structure Processor where
  /-- The bytes of each mesh, those that were never written included. -/
  buffers : MeshId → List UInt8
  /-- The draws of the pass that was begun. -/
  pass : List PassDraw
  /-- The draws that were handed over, oldest first, with the vertices that they read. -/
  shown : List DrawRecord

namespace Processor

/-- A draw with the vertices that it reads. -/
def read (p : Processor) (draw : PassDraw) : DrawRecord :=
  ⟨⟨draw.drawState, draw.texture, draw.vertices⟩,
    Vertex.decode ((p.buffers draw.mesh).take (Vertex.stride * draw.vertices))⟩

/-- The processor after a command. -/
def obey (p : Processor) : GpuCommand → Processor
  | .writeMesh mesh bytes =>
    { p with
      buffers := fun m =>
        if m = mesh then bytes ++ (p.buffers m).drop bytes.length else p.buffers m }
  | .beginPass _ => { p with pass := [] }
  | .draw call => { p with pass := p.pass ++ [call] }
  | .submit => { p with pass := [], shown := p.shown ++ p.pass.map p.read }
  | .writeTexture .. | .setViewport .. => p

/-- The processor after the commands among some notes. -/
def hear (p : Processor) (notes : List Note) : Processor :=
  (notes.filterMap Note.gpuCommand?).foldl obey p

theorem hear_append (p : Processor) (first second : List Note) :
    p.hear (first ++ second) = (p.hear first).hear second := by
  rw [hear, List.filterMap_append, List.foldl_append]
  rfl

@[simp] theorem hear_nil (p : Processor) : p.hear [] = p := rfl

theorem hear_log (p : Processor) (level : LogLevel) (text : String) (rest : List Note) :
    p.hear (.log level text :: rest) = p.hear rest := rfl

theorem hear_gpu (p : Processor) (command : GpuCommand) (rest : List Note) :
    p.hear (.gpu command :: rest) = (p.obey command).hear rest := rfl

/-- A draw reads the bytes that were written last, however many there were before. -/
theorem read_obey_writeMesh (p : Processor) (drawState : DrawStateId) (texture : TextureId)
    (mesh : MeshId) (vertices : List Vertex) :
    (p.obey (.writeMesh mesh (Vertex.encode vertices))).read
        ⟨drawState, texture, mesh, vertices.length⟩ =
      ⟨⟨drawState, texture, vertices.length⟩, vertices⟩ := by
  simp only [read, obey, if_true]
  rw [← Vertex.length_encode, List.take_left, Vertex.decode_encode]

/-- A processor that hears only of textures shows no more than before. -/
theorem hear_of_textures {notes : List Note} (h : ∀ n ∈ notes, ∀ command,
    n.gpuCommand? = some command → ∃ width height rowBytes bytes,
      command = .writeTexture width height rowBytes bytes) (p : Processor) : p.hear notes = p := by
  induction notes with
  | nil => rfl
  | cons n rest ih =>
      have hrest := ih fun m hm => h m (List.mem_cons_of_mem n hm)
      cases n with
      | gpu command =>
          obtain ⟨width, height, rowBytes, bytes, rfl⟩ := h _ List.mem_cons_self command rfl
          exact hrest
      | log | window | remark => exact hrest

end Processor

/-! ### Rendering and encoding -/

/-- How a pass is encoded. -/
structure View where
  clear : Colour
  viewport : Viewport

/-- A command as it is carried out for a screen: what is rendered is encoded at once. -/
def Stage.Command.screened (view : View) : Command → Action (Stage GpuDevice) Reply
  | .render => do
    let reply ← Command.render.run
    onDevice (GpuDevice.encode view.clear view.viewport)
    return reply
  | c => c.run

/-- A stage with a queueing device, and the processor that obeys it. -/
structure Screen where
  stage : Stage GpuDevice
  processor : Processor

namespace Screen

/-- A fresh canvas on a fresh device, with a processor of which nothing is known but that it has not
shown anything. -/
def fresh (sheet : Sheet) (buffers : MeshId → List UInt8) : Screen :=
  ⟨.fresh sheet .fresh, ⟨buffers, [], []⟩⟩

/-- The screen after a command. -/
def apply (s : Screen) (frame : Stage.Command × View) : Screen :=
  let outcome := (frame.1.screened frame.2).run s.stage
  ⟨outcome.state, s.processor.hear outcome.notes⟩

/-- The screen after the commands of a run. -/
def after (s : Screen) (frames : List (Stage.Command × View)) : Screen := frames.foldl apply s

/-- Every creation that a command of the run asks for succeeds. -/
def Creates (s : Screen) : List (Stage.Command × View) → Prop
  | [] => True
  | frame :: rest =>
    (∀ call ∈ s.stage.calls (.command frame.1), call.request.isCreation → call.made.isSome) ∧
      (s.apply frame).Creates rest

instance decidableCreates : ∀ (s : Screen) (frames : List (Stage.Command × View)),
    Decidable (s.Creates frames)
  | _, [] => inferInstanceAs (Decidable True)
  | s, frame :: rest =>
    have := decidableCreates (s.apply frame) rest
    inferInstanceAs (Decidable (_ ∧ _))

end Screen

end Mosaic
