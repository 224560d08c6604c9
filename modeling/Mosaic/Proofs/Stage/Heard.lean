import Mosaic.Device.Recorder
import Mosaic.Proofs.Stage.Akin

/-!
# What is heard of an operation

What is heard of an operation on a recorder is its reply or fault and the draws that it submits.
Both may name resources by their numbers, so what is heard can be given other numbers
(`Heard.rename`). Where only numbers up to some bound are heard (`Heard.Below`), these are all that
matters of the translation (`Heard.Below.rename_congr`).
-/

namespace Mosaic

/-- A draw with other numbers of its resources. -/
def DrawRecord.rename (f : Nat → Nat) (d : DrawRecord) : DrawRecord :=
  ⟨⟨⟨f d.call.drawState.id⟩, ⟨f d.call.texture.id⟩, d.call.vertices⟩, d.vertices⟩

namespace Stage

structure Heard where
  result : Except Fault Reply
  /-- The draws that are submitted. -/
  draws : List DrawRecord

namespace Heard

def rename (f : Nat → Nat) (heard : Heard) : Heard :=
  ⟨Reply.rename f <$> heard.result, heard.draws.map (DrawRecord.rename f)⟩

/-- No number above `n` is heard. -/
structure Below (n : Nat) (heard : Heard) : Prop where
  result : ∀ set, heard.result = .ok (.resources (some set)) → set.Below n
  draws : ∀ d ∈ heard.draws, d.call.drawState.id ≤ n ∧ d.call.texture.id ≤ n

theorem Below.rename_congr {n : Nat} {heard : Heard} (h : heard.Below n) {f g : Nat → Nat}
    (hfg : ∀ k ≤ n, g k = f k) : heard.rename g = heard.rename f := by
  obtain ⟨result, draws⟩ := heard
  have hresult : Reply.rename g <$> result = Reply.rename f <$> result := by
    cases result with
    | error fault => rfl
    | ok reply =>
        cases reply with
        | resources set =>
            cases set with
            | none => rfl
            | some set =>
                exact congrArg (fun s => Except.ok (Reply.resources (some s)))
                  ((h.result set rfl).rename_congr hfg)
        | _ => rfl
  have hdraws : draws.map (DrawRecord.rename g) = draws.map (DrawRecord.rename f) := by
    refine List.map_congr_left fun d hd => ?_
    obtain ⟨hdrawState, htexture⟩ := h.draws d hd
    rw [DrawRecord.rename, DrawRecord.rename, hfg _ hdrawState, hfg _ htexture]
  rw [rename, rename, hresult, hdraws]

end Heard

/-- What is heard of an operation on a recorder. -/
def hear (stage : Stage Recorder) (op : Operation) : Heard :=
  ⟨(op.run.run stage).result,
    (op.run.run stage).state.device.draws.drop stage.device.draws.length⟩

theorem hear_of_draws (stage : Stage Recorder) (op : Operation) {draws : List DrawRecord}
    (h : (op.run.run stage).state.device.draws = stage.device.draws ++ draws) :
    stage.hear op = ⟨(op.run.run stage).result, draws⟩ := by
  rw [hear, h, List.drop_left]

theorem hear_of_no_draw (stage : Stage Recorder) (op : Operation)
    (h : (op.run.run stage).state.device.draws = stage.device.draws) :
    stage.hear op = ⟨(op.run.run stage).result, []⟩ :=
  hear_of_draws stage op (h.trans (List.append_nil _).symm)

/-- What is heard of operations, one after the other. -/
def heard (stage : Stage Recorder) : List Operation → List Heard
  | [] => []
  | op :: ops => stage.hear op :: heard (op.run.run stage).state ops

section Replies

variable {δ : Type} {set : Option ResourceSet}

theorem reply_of_answer {α : Type} {reply : α → Reply} {question : Canvas → Except Fault α}
    {stage : Stage δ} (hreply : ∀ a, reply a ≠ .resources set) :
    ((answer reply question).run stage).result ≠ .ok (.resources set) := by
  rw [answer, Action.run_query]
  cases question stage.canvas with
  | error fault => rintro ⟨⟩
  | ok a => exact fun h => hreply a (Except.ok.inj h)

theorem reply_of_done {α : Type} (action : Action (Stage δ) α) (stage : Stage δ) :
    ((do let _ ← action; return Reply.done : Action (Stage δ) Reply).run stage).result ≠
      .ok (.resources set) := by
  rw [Action.run_bind_pure]
  cases (action.run stage).result <;> nofun

/-- The only resources that are ever answered are those that the canvas holds. -/
theorem resources_of_reply [Device δ] {op : Operation} {stage : Stage δ}
    (h : (op.run.run stage).result = .ok (.resources set)) : stage.canvas.resources = set := by
  cases op with
  | drop => exact absurd h (reply_of_done _ _)
  | command c =>
  cases c with
  | setup c =>
      rw [Operation.run, Command.run, Action.run_map] at h
      cases hresult : ((setup c).run stage).result <;> rw [hresult] at h <;> cases h
  | discard | copyText | setTile | setSprite | clear | render => exact absurd h (reply_of_done _ _)
  | config | geometry | tile | grid | occupied | sprite | activeSprites | vertices | sheetCount =>
      exact absurd h (reply_of_answer (by rintro _ ⟨⟩))
  | clamp x y =>
      simp only [Operation.run, Command.run, answer, Action.run_query, id_map] at h
      cases hx : stage.canvas.clampX x <;> cases hy : stage.canvas.clampY y <;>
        simp [hx, hy, bind, Except.bind, pure, Except.pure] at h
  | updateVertices =>
      rw [Operation.run, Command.run, Action.run_bind] at h
      generalize (onCanvas Canvas.updateVertices).run stage = outcome at h
      obtain ⟨fault | _, next, notes⟩ := outcome
      · cases h
      · cases h
  | resources =>
      cases h
      rfl

end Replies

end Stage

end Mosaic
