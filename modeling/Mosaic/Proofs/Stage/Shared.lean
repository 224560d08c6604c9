import Mosaic.Proofs.Stage.Holdings
import Mosaic.Proofs.Stage.Invariant

/-!
# A recorder that a canvas shares with others

On a `Shared` recorder operations of one canvas take turns with calls of others, and a log says who
made which call. `Ledger` is what holds of the recorder and the log whoever calls, and `Accounted`
adds what the canvas has to do with it: it holds resources that it made itself, they are as they
were planned unless others destroyed them, and what it made and holds no longer is gone.
-/

namespace Mosaic

/-- Who calls a shared recorder. -/
inductive Caller where
  | canvas
  | others
  deriving DecidableEq

/-- The calls to a shared recorder, oldest first, with who made them. -/
abbrev CallLog := List (Caller × DeviceCall)

namespace CallLog

/-- The calls as those of one caller. -/
def signed (who : Caller) (calls : List DeviceCall) : CallLog := calls.map fun call => (who, call)

/-- The calls of one caller. -/
def callsOf (who : Caller) (log : CallLog) : List DeviceCall :=
  (log.filter fun entry => entry.1 = who).map Prod.snd

/-- The resources that a caller made. -/
def made (who : Caller) (log : CallLog) : List Resource := madeBy (callsOf who log)

/-- The number of creations that were not refused. -/
def spent (log : CallLog) : Nat := log.countP fun entry => entry.2.spends

/-- Others called for the destruction of a resource that the canvas had made. -/
def Lost (log : CallLog) (ρ : Resource) : Prop :=
  ∃ (before : CallLog) (call : DeviceCall) (after : CallLog),
    log = before ++ (.others, call) :: after ∧ call.request = .destroy ρ ∧ ρ ∈ made .canvas before

theorem lost_iff {log : CallLog} {ρ : Resource} :
    Lost log ρ ↔ ∃ i : Fin log.length, log[i].1 = .others ∧ log[i].2.request = .destroy ρ ∧
      ρ ∈ made .canvas (log.take i) := by
  constructor
  · rintro ⟨before, call, after, rfl, hdestroy, hmade⟩
    refine ⟨⟨before.length, by simp⟩, ?_, ?_, ?_⟩
    · simp
    · simpa using hdestroy
    · simpa using hmade
  · rintro ⟨i, hothers, hdestroy, hmade⟩
    refine ⟨log.take i, log[i].2, log.drop (i + 1), ?_, hdestroy, hmade⟩
    rw [← hothers]
    exact (List.take_append_drop i log).symm.trans
      (congrArg _ (List.drop_eq_getElem_cons i.isLt))

instance (log : CallLog) (ρ : Resource) : Decidable (Lost log ρ) :=
  decidable_of_iff _ lost_iff.symm

variable {log : CallLog} {who other : Caller} {calls : List DeviceCall} {ρ : Resource}

theorem callsOf_append (who : Caller) (first second : CallLog) :
    callsOf who (first ++ second) = callsOf who first ++ callsOf who second := by
  simp [callsOf]

theorem callsOf_signed_self (who : Caller) (calls : List DeviceCall) :
    callsOf who (signed who calls) = calls := by
  induction calls with
  | nil => rfl
  | cons call calls ih => simpa [callsOf, signed] using ih

theorem callsOf_signed_of_ne (h : who ≠ other) (calls : List DeviceCall) :
    callsOf who (signed other calls) = [] := by
  simp [callsOf, signed, h.symm]

theorem made_signed_self (who : Caller) (log : CallLog) (calls : List DeviceCall) :
    made who (log ++ signed who calls) = made who log ++ madeBy calls := by
  rw [made, callsOf_append, callsOf_signed_self, madeBy_append, made]

theorem made_signed_of_ne (h : who ≠ other) (log : CallLog) (calls : List DeviceCall) :
    made who (log ++ signed other calls) = made who log := by
  rw [made, callsOf_append, callsOf_signed_of_ne h, List.append_nil, made]

/-- A resource was made before or by one of the last calls. -/
theorem mem_made_signed :
    ρ ∈ made who (log ++ signed other calls) ↔
      ρ ∈ made who log ∨ (who = other ∧ ρ ∈ madeBy calls) := by
  by_cases h : who = other
  · subst h
    simp [made_signed_self]
  · simp [made_signed_of_ne h, h]

theorem spent_signed (who : Caller) (log : CallLog) (calls : List DeviceCall) :
    spent (log ++ signed who calls) = spent log + calls.countP DeviceCall.spends := by
  rw [spent, List.countP_append, signed, List.countP_map]
  rfl

theorem not_lost_of_append {more : CallLog} (h : ¬ Lost (log ++ more) ρ) : ¬ Lost log ρ := by
  rintro ⟨before, call, after, rfl, hdestroy, hmade⟩
  exact h ⟨before, call, after ++ more, by simp, hdestroy, hmade⟩

/-- Others did not call for the destruction of what the canvas had made and not lost. -/
theorem not_destroyed_of_not_lost (hmade : ρ ∈ made .canvas log)
    (h : ¬ Lost (log ++ signed .others calls) ρ) : ∀ call ∈ calls, call.request ≠ .destroy ρ := by
  intro call hcall hdestroy
  obtain ⟨first, second, rfl⟩ := List.append_of_mem hcall
  refine h ⟨log ++ signed .others first, call, signed .others second, ?_, hdestroy, ?_⟩
  · simp [signed]
  · exact mem_made_signed.2 (.inl hmade)

/-- What is lost after further calls was lost before, or others made one of the calls for the
destruction of what the canvas had made. -/
theorem lost_append_signed (h : Lost (log ++ signed who calls) ρ) :
    Lost log ρ ∨ who = .others ∧ ρ ∈ made .canvas log ∧
      ∃ call ∈ calls, call.request = .destroy ρ := by
  obtain ⟨before, call, after, hlog, hdestroy, hmade⟩ := h
  have hlater : ∀ {middle : CallLog}, signed who calls = middle ++ (.others, call) :: after →
      ρ ∈ made .canvas (log ++ middle) → who = .others ∧ ρ ∈ made .canvas log ∧
        ∃ call ∈ calls, call.request = .destroy ρ := by
    intro middle hsigned hmade
    obtain ⟨first, rest, rfl, rfl, hrest⟩ := List.map_eq_append_iff.1 hsigned
    obtain ⟨_, second, rfl, hcall, -⟩ := List.map_eq_cons_iff.1 hrest
    cases hcall
    refine ⟨rfl, ?_, call, by simp, hdestroy⟩
    exact (mem_made_signed.1 hmade).resolve_right fun hothers => nomatch hothers.1
  obtain ⟨middle, rfl, hsigned⟩ | ⟨middle, rfl, hsigned⟩ := List.append_eq_append_iff.1 hlog
  · exact .inr (hlater hsigned hmade)
  · cases middle with
    | nil =>
        rw [List.append_nil] at hlater ⊢
        exact .inr (@hlater [] hsigned.symm (by rwa [List.append_nil]))
    | cons entry middle =>
        cases (List.cons.inj hsigned).1
        exact .inl ⟨before, call, middle, rfl, hdestroy, hmade⟩

end CallLog

open CallLog

/-- What holds of a recorder and the log of its calls. -/
structure Ledger (r : Recorder) (log : CallLog) : Prop where
  tidy : r.Tidy
  /-- No resource was made with a number that is still to be given. -/
  number : ∀ who ρ, ρ ∈ made who log → ρ.number ≤ r.lastId
  /-- What is alive was made by someone. -/
  owner : ∀ ρ, r.alive ρ → ∃ who, ρ ∈ made who log
  /-- No resource was made by two callers. -/
  apart : ∀ ρ, ρ ∈ made .canvas log → ρ ∉ made .others log
  spent : r.lastId ≤ spent log

namespace Ledger

variable {r r' : Recorder} {log : CallLog} {calls : List DeviceCall} {ρ : Resource}

theorem fresh : Ledger .fresh [] where
  tidy := Recorder.Reached.fresh.tidy
  number _ _ h := absurd h List.not_mem_nil
  owner ρ h := by cases ρ <;> cases h
  apart _ h := absurd h List.not_mem_nil
  spent := Nat.le_refl _

/-- What was made before is not made again. -/
theorem not_made (h : Ledger r log) (hserves : Device.Serves r calls r') {who : Caller}
    (hρ : ρ ∈ made who log) : ρ ∉ madeBy calls := fun hmade =>
  absurd (hserves.number_made hmade).1 (Nat.not_lt.2 (h.number who ρ hρ))

theorem serves (h : Ledger r log) (hserves : Device.Serves r calls r') (who : Caller) :
    Ledger r' (log ++ signed who calls) where
  tidy := hserves.tidy h.tidy
  number other ρ hρ := by
    obtain hold | ⟨-, hnew⟩ := mem_made_signed.1 hρ
    · exact Nat.le_trans (h.number other ρ hold) hserves.lastId_le
    · exact (hserves.number_made hnew).2
  owner ρ halive := by
    obtain hbefore | hnew := hserves.alive_before halive
    · obtain ⟨other, hρ⟩ := h.owner ρ hbefore
      exact ⟨other, mem_made_signed.2 (.inl hρ)⟩
    · exact ⟨who, mem_made_signed.2 (.inr ⟨rfl, hnew⟩)⟩
  apart ρ hcanvas hothers := by
    obtain hold | ⟨rfl, hnew⟩ := mem_made_signed.1 hcanvas
    · obtain hold' | ⟨-, hnew⟩ := mem_made_signed.1 hothers
      · exact h.apart ρ hold hold'
      · exact h.not_made hserves hold hnew
    · obtain hold' | ⟨hwho, -⟩ := mem_made_signed.1 hothers
      · exact h.not_made hserves hold' hnew
      · cases hwho
  spent := by
    have hle := hserves.lastId_le_add
    have hbefore := h.spent
    rw [spent_signed]
    omega

/-- What is alive was alive before, if it was made before. -/
theorem alive_before (h : Ledger r log) (hserves : Device.Serves r calls r') {who : Caller}
    (hρ : ρ ∈ made who log) (halive : r'.alive ρ) : r.alive ρ :=
  (hserves.alive_before halive).resolve_right (h.not_made hserves hρ)

/-- A creation for the canvas stops only where no number is left, which takes more creations than
there are numbers. -/
theorem not_lt_of_stopped (h : Ledger r log) {set : ResourceSet} {image : Image} {k : Nat}
    {first : List DeviceCall} {request : DeviceRequest} {fault : Fault} {who : Caller}
    (hserves : Device.Serves r (first ++ [⟨request, .error fault⟩]) r')
    (hrequest : (set.requests Stage.meshLayout image)[k]? = some request) :
    ¬ CallLog.spent (log ++ signed who (first ++ [⟨request, .error fault⟩])) <
      Bounded.Width.bits32.count := by
  intro hspent
  obtain ⟨-, hnumber | ⟨layout, rfl, hsize⟩⟩ :=
    hserves.stop (List.mem_append_right _ (List.mem_singleton_self _)) rfl
  · have hbefore := h.spent
    rw [spent_signed] at hspent
    omega
  · rw [set.layout_of_mem_requests (List.mem_of_getElem? hrequest)] at hsize
    cases hsize

end Ledger

/-- A canvas on a recorder that others call as well. -/
structure Shared where
  stage : Stage Recorder
  /-- The calls so far. -/
  log : CallLog

namespace Shared

def fresh (sheet : Sheet) : Shared := ⟨.fresh sheet .fresh, []⟩

/-- What can happen on a shared recorder. -/
inductive Turn where
  /-- An operation of the canvas. -/
  | canvas (op : Stage.Operation)
  /-- A call that the canvas has no part in. -/
  | others (request : DeviceRequest)
  /-- The next creation of a kind is made to fail. -/
  | failOn (kind : ResourceKind)
  | clearDraws

def Turn.apply (s : Shared) : Turn → Shared
  | .canvas op => ⟨(op.run.run s.stage).state, s.log ++ signed .canvas (s.stage.calls op)⟩
  | .others request =>
    let outcome := (Stage.onDevice request.run).run s.stage
    ⟨outcome.state, s.log ++ signed .others [⟨request, outcome.result⟩]⟩
  | .failOn kind => { s with stage := ((Stage.onDevice (Recorder.failOn kind)).run s.stage).state }
  | .clearDraws => { s with stage := ((Stage.onDevice Recorder.clearDraws).run s.stage).state }

/-- What the turns of a run lead to. -/
def after (s : Shared) (turns : List Turn) : Shared := turns.foldl Turn.apply s

/-- What is known of the resources of a canvas and of its recorder. -/
structure Accounted (s : Shared) : Prop extends Ledger s.stage.device s.log where
  /-- The canvas made what it holds. -/
  held : ∀ a, s.stage.canvas.active = some a → ∀ ρ ∈ a.resources.toList, ρ ∈ made .canvas s.log
  /-- What it holds is as it was planned, unless it was lost. -/
  backed : ∀ a, s.stage.canvas.active = some a → ∀ ρ ∈ a.resources.toList, ¬ Lost s.log ρ →
    s.stage.device.form ρ =
      some (a.resources.plan Stage.meshBytes s.stage.canvas.sheet.image ρ)
  /-- What it made and does not hold is gone, as long as numbers last. -/
  returned : CallLog.spent s.log < Bounded.Width.bits32.count → ∀ ρ ∈ made .canvas s.log,
    s.stage.device.alive ρ → ∃ a, s.stage.canvas.active = some a ∧ ρ ∈ a.resources.toList

theorem accounted_fresh (sheet : Sheet) : (fresh sheet).Accounted where
  toLedger := Ledger.fresh
  held _ h := by cases h
  backed _ h := by cases h
  returned _ _ h := absurd h List.not_mem_nil

variable {s : Shared}

/-- What the canvas made before, and is alive after further calls, is held before them. -/
theorem Accounted.held_before (h : s.Accounted) {calls : List DeviceCall} {r' : Recorder}
    (hserves : Device.Serves s.stage.device calls r') {who : Caller}
    (hspent : CallLog.spent (s.log ++ signed who calls) < Bounded.Width.bits32.count)
    {ρ : Resource} (hρ : ρ ∈ made .canvas s.log) (halive : r'.alive ρ) :
    ∃ a, s.stage.canvas.active = some a ∧ ρ ∈ a.resources.toList := by
  rw [spent_signed] at hspent
  exact h.returned (by omega) ρ hρ (h.alive_before hserves hρ halive)

/-- The canvas holds what it held, and none of it was to be destroyed. -/
theorem Accounted.of_kept (h : s.Accounted) {stage : Stage Recorder} {who : Caller}
    {calls : List DeviceCall} (hserves : Device.Serves s.stage.device calls stage.device)
    (hactive : stage.canvas.active = s.stage.canvas.active)
    (hsheet : stage.canvas.sheet = s.stage.canvas.sheet)
    (hmade : who = .canvas → madeBy calls = [])
    (hdestroy : ∀ ρ ∈ made .canvas s.log, ¬ Lost (s.log ++ signed who calls) ρ →
      ∀ call ∈ calls, call.request ≠ .destroy ρ) :
    Accounted ⟨stage, s.log ++ signed who calls⟩ where
  toLedger := h.toLedger.serves hserves who
  held a ha ρ hρ := mem_made_signed.2 (.inl (h.held a (hactive ▸ ha) ρ hρ))
  backed a ha ρ hρ hlost := by
    have ha' : s.stage.canvas.active = some a := hactive ▸ ha
    have hheld := h.held a ha' ρ hρ
    rw [hserves.form_eq (h.not_made hserves hheld) (hdestroy ρ hheld hlost), hsheet]
    exact h.backed a ha' ρ hρ (not_lost_of_append hlost)
  returned hspent ρ hρ halive := by
    obtain hold | ⟨rfl, hnew⟩ := mem_made_signed.1 hρ
    · rw [hactive]
      exact h.held_before hserves hspent hold halive
    · rw [hmade rfl] at hnew
      cases hnew

/-- The canvas holds nothing, as before or as all that it held was destroyed, and nothing that it
made meanwhile is alive. -/
theorem Accounted.of_unset (h : s.Accounted) {stage : Stage Recorder} {calls : List DeviceCall}
    (hserves : Device.Serves s.stage.device calls stage.device)
    (hactive : stage.canvas.active = none)
    (hold : ∀ a, s.stage.canvas.active = some a → ∀ ρ ∈ a.resources.toList,
      stage.device.alive ρ = false)
    (hnew : CallLog.spent (s.log ++ signed .canvas calls) < Bounded.Width.bits32.count →
      ∀ ρ ∈ madeBy calls, stage.device.alive ρ = false) :
    Accounted ⟨stage, s.log ++ signed .canvas calls⟩ where
  toLedger := h.toLedger.serves hserves .canvas
  held a ha := by
    rw [hactive] at ha
    cases ha
  backed a ha := by
    rw [hactive] at ha
    cases ha
  returned hspent ρ hρ halive := by
    obtain hbefore | ⟨-, hmade⟩ := mem_made_signed.1 hρ
    · obtain ⟨a, ha, hmem⟩ := h.held_before hserves hspent hbefore halive
      rw [hold a ha ρ hmem] at halive
      cases halive
    · rw [hnew hspent ρ hmade] at halive
      cases halive

/-- The canvas holds what it just made. -/
theorem Accounted.of_opened (h : s.Accounted) (hunset : s.stage.canvas.active = none)
    {stage : Stage Recorder} {c : Config} {set : ResourceSet}
    (hserves : Device.Serves s.stage.device
      (set.creations Stage.meshLayout s.stage.canvas.sheet.image) stage.device)
    (hactive : stage.canvas.active = some ⟨c, set⟩)
    (hsheet : stage.canvas.sheet = s.stage.canvas.sheet) :
    Accounted ⟨stage, s.log ++
      signed .canvas (set.creations Stage.meshLayout s.stage.canvas.sheet.image)⟩ := by
  have hmadeBy : madeBy (set.creations Stage.meshLayout s.stage.canvas.sheet.image) =
      set.toList := set.madeBy_creations
  refine ⟨h.toLedger.serves hserves .canvas, fun a ha ρ hρ => ?_, fun a ha ρ hρ _ => ?_,
    fun hspent ρ hρ halive => ?_⟩
  · rw [hactive] at ha
    cases ha
    exact mem_made_signed.2 (.inr ⟨rfl, hmadeBy.symm ▸ hρ⟩)
  · rw [hactive] at ha
    cases ha
    rw [hsheet]
    exact ResourceSet.form_creations Stage.byteSize_meshLayout hserves hρ
  · obtain hbefore | ⟨-, hmade⟩ := mem_made_signed.1 hρ
    · obtain ⟨a, ha, -⟩ := h.held_before hserves hspent hbefore halive
      rw [hunset] at ha
      cases ha
    · exact ⟨_, hactive, hmadeBy ▸ hmade⟩

theorem accounted_canvas (h : s.Accounted) (op : Stage.Operation) :
    (Turn.apply s (.canvas op)).Accounted := by
  have hserves := Stage.serves_calls op s.stage
  have hhandles := Stage.handles s.stage op
  have hsheet := (Stage.keeps_operation op s.stage).sheet
  change Accounted ⟨(op.run.run s.stage).state, s.log ++ signed .canvas (s.stage.calls op)⟩
  generalize (op.run.run s.stage).state = stage at *
  generalize s.stage.calls op = calls at *
  generalize hactive : stage.canvas.active = active at hhandles
  cases hhandles with
  | shown calls hshown =>
      refine h.of_kept hserves hactive hsheet (fun _ => ?_) fun ρ hρ _ call hcall => ?_
      · refine List.eq_nil_iff_forall_not_mem.2 fun ρ hρ => ?_
        obtain ⟨call, hcall, hcreation⟩ := hserves.isCreation_of_made hρ
        obtain ⟨a, bytes, -, hrequest⟩ | ⟨d, hrequest⟩ := hshown call hcall
        all_goals
          rw [hrequest] at hcreation
          cases hcreation
      · obtain ⟨a, bytes, -, hrequest⟩ | ⟨d, hrequest⟩ := hshown call hcall
        all_goals
          rw [hrequest]
          exact nofun
  | opened c set hunset => exact h.of_opened hunset hserves hactive hsheet
  | refused set k request e hunset hrequest =>
      refine h.of_unset hserves hactive (fun a ha => ?_) fun _ ρ hρ => ?_
      · rw [hunset] at ha
        cases ha
      · rw [set.madeBy_abandoned] at hρ
        exact ResourceSet.dead_of_abandoned hserves hρ
  | stopped set k request fault hunset hrequest =>
      refine h.of_unset hserves hactive (fun a ha => ?_) fun hspent => ?_
      · rw [hunset] at ha
        cases ha
      · exact absurd hspent (h.toLedger.not_lt_of_stopped hserves hrequest)
  | closed a ha =>
      refine h.of_unset hserves hactive (fun b hb ρ hρ => ?_) fun _ ρ hρ => ?_
      · rw [ha] at hb
        cases hb
        rw [← List.nil_append (ResourceSet.destructions _)] at hserves
        exact ResourceSet.dead_of_destructions hserves (List.mem_reverse.2 hρ)
      · rw [ResourceSet.madeBy_destructions] at hρ
        cases hρ

/-- Calls of others leave the canvas as it is. -/
theorem Accounted.of_others (h : s.Accounted) {calls : List DeviceCall} {r' : Recorder}
    (hserves : Device.Serves s.stage.device calls r') :
    Accounted ⟨{ s.stage with device := r' }, s.log ++ signed .others calls⟩ :=
  h.of_kept hserves rfl rfl nofun fun _ hρ hlost => not_destroyed_of_not_lost hρ hlost

theorem accounted_others (h : s.Accounted) (request : DeviceRequest) :
    (Turn.apply s (.others request)).Accounted :=
  have hserves : Device.Serves s.stage.device [⟨request, (request.run.run s.stage.device).result⟩]
      (request.run.run s.stage.device).state := ⟨rfl, rfl⟩
  h.of_others hserves

/-- A change of the recorder that concerns none of its resources. -/
theorem Accounted.of_form (h : s.Accounted) {r : Recorder} (htidy : r.Tidy)
    (hlastId : r.lastId = s.stage.device.lastId) (hform : ∀ ρ, r.form ρ = s.stage.device.form ρ) :
    Accounted ⟨{ s.stage with device := r }, s.log⟩ := by
  have halive : ∀ ρ, r.alive ρ = s.stage.device.alive ρ := fun ρ => by
    rw [← Recorder.isSome_form, hform, Recorder.isSome_form]
  exact {
    tidy := htidy
    number := fun who ρ hρ => hlastId ▸ h.number who ρ hρ
    owner := fun ρ hρ => h.owner ρ (halive ρ ▸ hρ)
    apart := h.apart
    spent := hlastId ▸ h.spent
    held := h.held
    backed := fun a ha ρ hρ hlost => (hform ρ).trans (h.backed a ha ρ hρ hlost)
    returned := fun hspent ρ hρ hlive => h.returned hspent ρ hρ (halive ρ ▸ hlive) }

theorem accounted_apply (h : s.Accounted) (turn : Turn) : (turn.apply s).Accounted := by
  cases turn with
  | canvas op => exact accounted_canvas h op
  | others request => exact accounted_others h request
  | failOn kind => exact h.of_form { h.tidy with } rfl fun ρ => by cases ρ <;> rfl
  | clearDraws => exact h.of_form { h.tidy with } rfl fun ρ => by cases ρ <;> rfl

theorem accounted_after (sheet : Sheet) (turns : List Turn) :
    ((fresh sheet).after turns).Accounted := by
  have hrun : ∀ s : Shared, s.Accounted → (s.after turns).Accounted := by
    induction turns with
    | nil => exact fun _ h => h
    | cons turn turns ih => exact fun s h => ih _ (accounted_apply h turn)
  exact hrun _ (accounted_fresh sheet)

/-! ### The canvas -/

theorem keeps_apply (s : Shared) (turn : Turn) : s.stage.Keeps (turn.apply s).stage := by
  cases turn with
  | canvas op => exact Stage.keeps_operation op s.stage
  | others request => exact Stage.follows_onDevice request.run s.stage
  | failOn kind => exact Stage.follows_onDevice (Recorder.failOn kind) s.stage
  | clearDraws => exact Stage.follows_onDevice Recorder.clearDraws s.stage

theorem keeps_after (s : Shared) (turns : List Turn) : s.stage.Keeps (s.after turns).stage := by
  induction turns generalizing s with
  | nil => exact refl_of Stage.Keeps s.stage
  | cons turn turns ih => exact trans_of Stage.Keeps (keeps_apply s turn) (ih (turn.apply s))

theorem sound_after (sheet : Sheet) (turns : List Turn) :
    ((fresh sheet).after turns).stage.canvas.Sound :=
  (keeps_after (fresh sheet) turns).sound (Canvas.sound_fresh sheet)

end Shared

end Mosaic
