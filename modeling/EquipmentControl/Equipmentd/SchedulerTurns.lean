import EquipmentControl.Equipmentd.JobRuns
import EquipmentControl.Equipmentd.LineSteps

/-!
# What the scheduler's turn detects, commits and undoes

`run_scheduler` is meant to notice abnormal chambers whatever else goes on, to take back its
decision when the START cannot be written, and to let a job go on after an acknowledged RESET
(`services/equipmentd/src/main.c`, `scheduler.c`).

An abnormal chamber is noticed only while a controller is attached and no request is pending
(`abnormal_detected_iff`). A START that is due and cannot be written leaves the job moved on
(`failed_start_rolled_back_iff`). After a RESET the job stays out of `JOB_ERROR` exactly when the
chamber was not recorded in FAULT, since the acknowledgement leaves the record alone
(`reset_survives_iff`).
-/

set_option autoImplicit false

namespace EquipmentControl

section Turns

variable {δ : Type}

/-- A chamber that the job waits for is registered and stale, or a chamber is recorded in FAULT. -/
inductive Abnormal (ctx : AppCtx δ) (nowMs : ℤ) : Prop where
  | precleanStale : ctx.jobState = .precleanSent ∨ ctx.jobState = .precleanRunning →
      ctx.moduleRegistry.pmcPreclean.registered = true →
      moduleRegistryIsStale ctx.moduleRegistry.pmcPreclean nowMs moduleStaleMs = true →
      Abnormal ctx nowMs
  | depositionStale : ctx.jobState = .depositionSent ∨ ctx.jobState = .depositionRunning →
      ctx.moduleRegistry.pmcDeposition.registered = true →
      moduleRegistryIsStale ctx.moduleRegistry.pmcDeposition nowMs moduleStaleMs = true →
      Abnormal ctx nowMs
  | precleanFault : isState ctx.moduleRegistry.pmcPreclean (ascii "FAULT") = true →
      Abnormal ctx nowMs
  | depositionFault : isState ctx.moduleRegistry.pmcDeposition (ascii "FAULT") = true →
      Abnormal ctx nowMs

/-- What the scheduler decides on is as before. -/
structure SameSchedule (before after : AppCtx δ) : Prop where
  jobState : after.jobState = before.jobState
  nextSeq : after.nextSeq = before.nextSeq
  tracker : after.tracker = before.tracker

/-- A RESET of a chamber in slot `i` is the only pending request, the other chamber is not recorded
in FAULT, and `m` is the controller's positive answer, which can be relayed. -/
structure AnswersReset [CDouble δ] (ctx : AppCtx δ) (id : ModuleId) (i : Fin requestTrackerMax)
    (m : Message δ) : Prop where
  chamber : id ≠ .tmc
  attached : 0 ≤ ctx.pmcFd
  valid : (ctx.tracker i).valid = true
  only : ∀ j, (ctx.tracker j).valid = true → j = i
  isReset : (ctx.tracker i).type = .reset
  dev : (ctx.tracker i).dev = id.devId
  other : ∀ other, other ≠ id → other ≠ .tmc →
    isState (ctx.moduleRegistry.get other) (ascii "FAULT") = false
  role : m.role = .resp
  type : m.type = .reset
  ok : m.ok = some 1
  seq : m.seq = some (ctx.tracker i).seq
  answersDev : m.dev = some (ctx.tracker i).dev
  relayed : sendFails m true = false

/-! ## The job after a turn -/

/-- A tick without a pending request fails the job exactly for an abnormal chamber, or leaves it
failed. -/
theorem schedulerTick_error_iff (reg : ModuleRegistry δ) (nextSeq : UInt32) (job : JobState) :
    (schedulerTick reg false nextSeq job).job = .error ↔
      job = .error ∨ precleanLost reg job = true ∨ depositionLost reg job = true ∨
        isState reg.pmcPreclean (ascii "FAULT") = true ∨
        isState reg.pmcDeposition (ascii "FAULT") = true := by
  rw [schedulerTick, if_neg (by decide)]
  split
  · rename_i lost
    exact iff_of_true rfl (.inr (.inl lost))
  rename_i preclean
  split
  · rename_i lost
    exact iff_of_true rfl (.inr (.inr (.inl lost)))
  rename_i deposition
  split
  · rename_i fault
    rw [Bool.or_eq_true] at fault
    exact iff_of_true rfl (.inr (.inr (.inr fault)))
  rename_i noFault
  rw [Bool.or_eq_true, not_or] at noFault
  -- Nothing abnormal is left, so the switch decides.
  have move := schedulerSwitch_move reg nextSeq job
  generalize startOf (schedulerSwitch reg nextSeq job).action = start at move
  constructor
  · intro failed
    rw [failed] at move
    cases move with
    | stay => exact .inl rfl
  · rintro (rfl | lost | lost | fault | fault)
    · rfl
    · exact absurd lost preclean
    · exact absurd lost deposition
    · exact absurd fault noFault.1
    · exact absurd fault noFault.2

theorem precleanLost_refresh (reg : ModuleRegistry δ) (nowMs : ℤ) (job : JobState) :
    precleanLost (refreshModuleHealth reg nowMs) job = true ↔
      (job = .precleanSent ∨ job = .precleanRunning) ∧ reg.pmcPreclean.registered = true ∧
        moduleRegistryIsStale reg.pmcPreclean nowMs moduleStaleMs = true := by
  simp [precleanLost, refreshModuleHealth, and_assoc]

theorem depositionLost_refresh (reg : ModuleRegistry δ) (nowMs : ℤ) (job : JobState) :
    depositionLost (refreshModuleHealth reg nowMs) job = true ↔
      (job = .depositionSent ∨ job = .depositionRunning) ∧ reg.pmcDeposition.registered = true ∧
        moduleRegistryIsStale reg.pmcDeposition nowMs moduleStaleMs = true := by
  simp [depositionLost, refreshModuleHealth, and_assoc]

/-- A tick after the refresh fails the job exactly for an abnormal chamber, or leaves it failed. -/
theorem turnTick_error_iff {ctx : AppCtx δ} {healthMs : ℤ}
    (free : trackerHasPending ctx.tracker = false) :
    (turnTick ctx healthMs).job = .error ↔ ctx.jobState = .error ∨ Abnormal ctx healthMs := by
  rw [turnTick, free, schedulerTick_error_iff, precleanLost_refresh, depositionLost_refresh]
  refine or_congr_right ⟨?_, ?_⟩
  · rintro (⟨waits, registered, stale⟩ | ⟨waits, registered, stale⟩ | fault | fault)
    · exact .precleanStale waits registered stale
    · exact .depositionStale waits registered stale
    · exact .precleanFault fault
    · exact .depositionFault fault
  · rintro (⟨waits, registered, stale⟩ | ⟨waits, registered, stale⟩ | fault | fault)
    · exact .inl ⟨waits, registered, stale⟩
    · exact .inr (.inl ⟨waits, registered, stale⟩)
    · exact .inr (.inr (.inl fault))
    · exact .inr (.inr (.inr fault))

/-- A tick with a pending request leaves the job alone. -/
theorem turnTick_pending {ctx : AppCtx δ} {healthMs : ℤ}
    (pending : trackerHasPending ctx.tracker = true) :
    (turnTick ctx healthMs).job = ctx.jobState := by
  rw [turnTick, pending]
  rfl

/-- A move that issues a START changes the job. -/
theorem JobMove.start_moves {reg : ModuleRegistry δ} {job next : JobState} {dev : Int32}
    (move : JobMove reg job (some dev) next) : next ≠ job := by
  cases move <;> decide

variable [CDouble δ]

/-- The job after a turn is that of the tick, which a detached daemon leaves out. -/
theorem runScheduler_jobState (ctx : AppCtx δ) (healthMs createdMs : ℤ) (writeOk : Bool) :
    (runScheduler ctx healthMs createdMs writeOk).1.jobState =
      if ctx.pmcFd < 0 then ctx.jobState else (turnTick ctx healthMs).job := by
  have turn := runScheduler_turn ctx healthMs createdMs writeOk
  generalize runScheduler ctx healthMs createdMs writeOk = after at turn ⊢
  cases turn with
  | detached lost => rw [if_pos lost]
  | ticked attached => rw [if_neg (not_lt.mpr attached)]; rfl
  | unsent dev i starts => rw [if_neg (not_lt.mpr starts.attached)]; rfl
  | sent dev i starts => rw [if_neg (not_lt.mpr starts.attached)]; rfl

/-! ## Abnormal chambers -/

/-- **An abnormal chamber is detected by a turn** exactly when the job has failed already, or a
controller is attached and no request is pending. -/
theorem abnormal_detected_iff (ctx : AppCtx δ) (healthMs createdMs : ℤ) (writeOk : Bool) :
    (Abnormal ctx healthMs →
        (runScheduler ctx healthMs createdMs writeOk).1.jobState = .error) ↔
      (Abnormal ctx healthMs → ctx.jobState = .error ∨
        (0 ≤ ctx.pmcFd ∧ trackerHasPending ctx.tracker = false)) := by
  refine forall_congr' fun abnormal => ?_
  rw [runScheduler_jobState]
  by_cases lost : ctx.pmcFd < 0
  · rw [if_pos lost]
    refine ⟨.inl, ?_⟩
    rintro (failed | ⟨attached, _⟩)
    · exact failed
    · exact absurd attached (not_le.mpr lost)
  rw [if_neg lost]
  cases pending : trackerHasPending ctx.tracker with
  | true =>
      rw [turnTick_pending pending]
      simp
  | false =>
      exact iff_of_true ((turnTick_error_iff pending).mpr (.inr abnormal))
        (.inr ⟨not_lt.mp lost, rfl⟩)

/-! ## A START that cannot be written -/

/-- **A START that fails is taken back** only if there is none: when a START is due and its write
fails, the job has moved on. -/
theorem failed_start_rolled_back_iff (ctx : AppCtx δ) (healthMs createdMs : ℤ) (writeOk : Bool) :
    (StartDue ctx healthMs → (runScheduler ctx healthMs createdMs writeOk).2 = none →
        SameSchedule ctx (runScheduler ctx healthMs createdMs writeOk).1) ↔
      (StartDue ctx healthMs → writeOk = true) := by
  have sends := runScheduler_sends_iff ctx healthMs createdMs writeOk
  refine forall_congr' fun due => ?_
  constructor
  · intro undone
    by_contra failed
    have silent : (runScheduler ctx healthMs createdMs writeOk).2 = none := by
      by_contra wrote
      exact failed (sends.mp wrote).1
    have same := (undone silent).jobState
    have issued : startOf (turnTick ctx healthMs).action ≠ none := by
      refine (schedulerTick_start_iff _ _ _ _).mpr ⟨?_, due.preclean, due.deposition, due.ready⟩
      exact trackerHasPending_eq_false.mpr due.idle
    have starts : StartsJob ctx healthMs (turnTick ctx healthMs).action.dev := by
      refine turnTick_start due.attached ?_
      by_contra quiet
      exact issued (if_neg quiet)
    rw [runScheduler_jobState, if_neg (not_lt.mpr due.attached)] at same
    exact starts.move.start_moves same
  · intro written silent
    exact absurd silent (sends.mpr ⟨written, due⟩)

/-! ## The turn after a RESET -/

omit [CDouble δ] in
/-- The only valid slot is found by its sequence number and device. -/
theorem requestTrackerFind_only {t : RequestTracker} {i : Fin requestTrackerMax}
    (valid : (t i).valid = true) (only : ∀ j, (t j).valid = true → j = i) :
    requestTrackerFind t (t i).seq (t i).dev = some i := by
  cases found : requestTrackerFind t (t i).seq (t i).dev with
  | none =>
      have searched := List.find?_eq_none.mp found i (List.mem_finRange i)
      simp [valid] at searched
  | some j => rw [only j (requestTrackerFind_some found).1]

/-- The answer finishes the RESET. -/
theorem AnswersReset.handled {ctx : AppCtx δ} {id : ModuleId} {i : Fin requestTrackerMax}
    {m : Message δ} (answers : AnswersReset ctx id i m) {line : Bytes}
    (parsed : lineParse line = some m) (nowMs : ℤ) :
    (handleOneLine ctx.pmcFd ctx line nowMs true).ctx = finishResponse ctx m i := by
  have matched : matchPending ctx.pmcFd ctx m = some i := by
    simp only [matchPending, isControllerFd, decide_true, Bool.true_or, answers.role,
      Bool.and_self, if_true, answers.seq, answers.answersDev]
    exact requestTrackerFind_only answers.valid answers.only
  rw [handleOneLine_matched parsed matched]
  rcases handleResponse_cases ctx m i true with gaveUp | finished
  · have gives : (handleResponse ctx m i true).ret < 0 := by
      rw [gaveUp]
      exact show (-1 : ℤ) < 0 by decide
    have fails := ((handleResponse_ret ctx m i true).mp gives).2
    cases answers.relayed.symm.trans fails
  · rw [finished]

omit [CDouble δ] in
/-- Clearing a latch leaves the recorded states alone. -/
theorem clearFaultLatched_isState (reg : ModuleRegistry δ) (dev : UInt32) (id : ModuleId)
    (state : Bytes) :
    isState ((clearFaultLatched reg dev).get id) state = isState (reg.get id) state := by
  rw [clearFaultLatched]
  split
  · rfl
  · rename_i target _
    by_cases here : id = target
    · rw [here, ModuleRegistry.get_modify_self]
      rfl
    · rw [ModuleRegistry.get_modify_of_ne _ _ here]

/-- **After an acknowledged RESET the next turn leaves the job out of `JOB_ERROR`** exactly when
the chamber is not recorded in FAULT. -/
theorem reset_survives_iff (ctx : AppCtx δ) (id : ModuleId) (i : Fin requestTrackerMax)
    (m : Message δ) (answers : AnswersReset ctx id i m) (line : Bytes)
    (parsed : lineParse line = some m) (nowMs healthMs createdMs : ℤ) (writeOk : Bool) :
    (runScheduler (handleOneLine ctx.pmcFd ctx line nowMs true).ctx healthMs createdMs
        writeOk).1.jobState ≠ .error ↔
      isState (ctx.moduleRegistry.get id) (ascii "FAULT") = false := by
  have positive : m.type ≠ .error ∧ m.ok = some 1 :=
    ⟨by rw [answers.type]; decide, answers.ok⟩
  have after : finishResponse ctx m i =
      { ctx with
        jobState := .idle
        moduleRegistry := clearFaultLatched ctx.moduleRegistry id.devId
        tracker := requestTrackerRemove ctx.tracker i } := by
    rw [finishResponse, if_pos positive]
    simp only [acknowledge, answers.isReset, answers.dev, if_true, ackedJob]
  have free : trackerHasPending (requestTrackerRemove ctx.tracker i) = false := by
    refine trackerHasPending_eq_false.mpr fun j => ?_
    by_contra still
    obtain ⟨differs, same⟩ := requestTrackerRemove_valid (Bool.not_eq_false _ ▸ still)
    rw [same, Bool.not_eq_false] at still
    exact differs (answers.only j still)
  rw [answers.handled parsed, after, runScheduler_jobState, if_neg (not_lt.mpr answers.attached),
    ne_eq, turnTick_error_iff free, ← Bool.not_eq_true]
  refine not_congr ⟨?_, fun fault => .inr ?_⟩
  · rintro (failed | ⟨waits, _, _⟩ | ⟨waits, _, _⟩ | fault | fault)
    · cases failed
    · rcases waits with waits | waits <;> cases waits
    · rcases waits with waits | waits <;> cases waits
    · have recorded := (clearFaultLatched_isState _ _ .pmcPreclean _).symm.trans fault
      by_cases here : ModuleId.pmcPreclean = id
      · exact here ▸ recorded
      · cases recorded.symm.trans (answers.other _ here (by decide))
    · have recorded := (clearFaultLatched_isState _ _ .pmcDeposition _).symm.trans fault
      by_cases here : ModuleId.pmcDeposition = id
      · exact here ▸ recorded
      · cases recorded.symm.trans (answers.other _ here (by decide))
  · have kept := (clearFaultLatched_isState ctx.moduleRegistry id.devId id _).trans fault
    cases id with
    | tmc => exact absurd rfl answers.chamber
    | pmcPreclean => exact .precleanFault kept
    | pmcDeposition => exact .depositionFault kept

end Turns

/-- A process controller on descriptor 5, and chambers last heard of at 1000 ms that are recorded in
states. -/
def attachedWith (preclean deposition : String) (tracker : RequestTracker) (job : JobState) :
    AppCtx ℚ where
  moduleRegistry :=
    { moduleRegistryInit with
      pmcPreclean := { chamberIn preclean with lastUpdateMs := 1000 }
      pmcDeposition := { chamberIn deposition with lastUpdateMs := 1000 } }
  pmcFd := 5
  tmcFd := -1
  tracker := tracker
  nextSeq := 1000
  jobState := job

/-- A request of the client on descriptor 7 for module 1 is pending. -/
def onePending (type : MsgType) : RequestTracker := fun i =>
  if i.val = 0 then clientRequest 7 21 1 type 9000 else .zero

/-- While a client's STATUS is pending, a preclean chamber that has gone silent is not noticed. -/
theorem silent_chamber_missed :
    let ctx := attachedWith "PROCESSING" "IDLE" (onePending .status) .precleanRunning
    Abnormal ctx 10000 ∧
      (runScheduler ctx 10000 10000 true).1.jobState = .precleanRunning :=
  ⟨.precleanStale (by decide) (by decide) (by decide), by decide⟩

/-- A START that could not be written leaves the job waiting for it, and its number used up. -/
theorem failed_start_moves_job :
    let ctx := attachedWith "IDLE" "IDLE" requestTrackerInit .idle
    StartDue ctx 2000 ∧ (runScheduler ctx 2000 2000 false).2 = none ∧
      (runScheduler ctx 2000 2000 false).1.jobState = .precleanSent ∧
      (runScheduler ctx 2000 2000 false).1.nextSeq = 1001 :=
  ⟨⟨by decide, by decide, by decide, by decide, .inl (by decide)⟩, by decide, by decide,
    by decide⟩

/-- The controller's answer to a RESET of module 1. -/
def resetAnswer : Message ℚ :=
  { role := .resp, type := .reset, dev := some 1, seq := some 21, ok := some 1 }

/-- It answers the pending RESET, in whatever state the chamber is recorded. -/
theorem resetAnswer_answers (state : String) :
    AnswersReset (attachedWith state "IDLE" (onePending .reset) .error) .pmcPreclean 0
      resetAnswer where
  chamber := by decide
  attached := show (0 : ℤ) ≤ 5 by decide
  valid := rfl
  only := show ∀ j, (onePending .reset j).valid = true → j = 0 by decide
  isReset := rfl
  dev := rfl
  other := by
    intro other differs chamber
    cases other with
    | tmc => exact absurd rfl chamber
    | pmcPreclean => exact absurd rfl differs
    | pmcDeposition => exact show isState (chamberIn "IDLE") (ascii "FAULT") = false by decide
  role := rfl
  type := rfl
  ok := rfl
  seq := rfl
  answersDev := rfl
  relayed := by decide

/-- A chamber recorded IDLE lets the job go on. -/
theorem reset_survives_idle :
    (runScheduler (handleOneLine 5 (attachedWith "IDLE" "IDLE" (onePending .reset) .error)
        (ascii "RESP RESET dev=1 seq=21 ok=1\n") 9500 true).ctx 9600 9600 true).1.jobState ≠
          .error ↔
      isState (chamberIn "IDLE") (ascii "FAULT") = false :=
  reset_survives_iff _ .pmcPreclean 0 resetAnswer (resetAnswer_answers "IDLE") _ (by decide)
    9500 9600 9600 true

/-- A chamber still recorded in FAULT takes the job back to `JOB_ERROR`. -/
theorem reset_undone :
    AnswersReset (attachedWith "FAULT" "IDLE" (onePending .reset) .error) .pmcPreclean 0
        resetAnswer ∧
      lineParse (ascii "RESP RESET dev=1 seq=21 ok=1\n") = some resetAnswer ∧
      (runScheduler (handleOneLine 5 (attachedWith "FAULT" "IDLE" (onePending .reset) .error)
        (ascii "RESP RESET dev=1 seq=21 ok=1\n") 9500 true).ctx 9600 9600 true).1.jobState =
          .error :=
  ⟨resetAnswer_answers "FAULT", by decide, by decide⟩

end EquipmentControl
