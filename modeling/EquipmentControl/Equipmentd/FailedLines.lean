import EquipmentControl.Equipmentd.Daemon
import EquipmentControl.Equipmentd.LineSteps

/-!
# What a failed line leaves

A slot of the request tracker that is not in use is all zero: the tracker starts so, a slot that is
removed or times out is zeroed, and one that is allocated is in use (`SlotsZeroed`). A request
that is forwarded takes such a slot before its line is formatted and written, and on failure the
slot is zeroed again, so it is what it was.

Hence a line on which `handle_one_line` returns -1 leaves the tracker, the job and the module
registry exactly as they were (`handleOneLine_restores`). A controller link may still have moved:
a REGISTER attaches its connection before it is answered.
-/

set_option autoImplicit false

namespace EquipmentControl

open InputMachine

/-- Every slot that is not in use is all zero. -/
def SlotsZeroed (t : RequestTracker) : Prop := ∀ i, (t i).valid = false → t i = .zero

namespace SlotsZeroed

theorem init : SlotsZeroed requestTrackerInit := fun _ _ => rfl

variable {t : RequestTracker} (zeroed : SlotsZeroed t)
include zeroed

theorem remove (i : Fin requestTrackerMax) : SlotsZeroed (requestTrackerRemove t i) := by
  intro j free
  by_cases here : j = i
  · subst here
    exact Function.update_self ..
  · rw [requestTrackerRemove, Function.update_of_ne here] at free ⊢
    exact zeroed j free

theorem take {slot : PendingRequest} (valid : slot.valid = true) (i : Fin requestTrackerMax) :
    SlotsZeroed (Function.update t i slot) := by
  intro j free
  by_cases here : j = i
  · subst here
    rw [Function.update_self, valid] at free
    cases free
  · rw [Function.update_of_ne here] at free ⊢
    exact zeroed j free

theorem sweep (nowMs : ℤ) : SlotsZeroed (requestTrackerSweepTimeouts t nowMs) := by
  intro i free
  rw [requestTrackerSweepTimeouts] at free ⊢
  split
  · rfl
  · rename_i kept
    rw [if_neg kept] at free
    exact zeroed i free

/-- Removing a free slot changes nothing. -/
theorem remove_free {i : Fin requestTrackerMax} (free : (t i).valid = false) :
    requestTrackerRemove t i = t := by
  rw [requestTrackerRemove, ← zeroed i free]
  exact Function.update_eq_self i t

end SlotsZeroed

section FailedLines

variable {δ : Type} [CDouble δ]

theorem TrackerStep.zeroed {fd ret : ℤ} {before after : RequestTracker}
    (step : TrackerStep fd before ret after) (zeroed : SlotsZeroed before) : SlotsZeroed after := by
  cases step with
  | same => exact zeroed
  | freed _ i => exact zeroed.remove i
  | taken i => exact zeroed.take rfl i

theorem SchedulerStep.zeroed {before after : RequestTracker} {action : SchedulerAction}
    {wrote : Option (ℤ × Bytes)} (step : SchedulerStep before action after wrote)
    (zeroed : SlotsZeroed before) : SlotsZeroed after := by
  cases step with
  | same => exact zeroed
  | freed i => exact zeroed.remove i
  | taken i => exact zeroed.take rfl i

/-- A piece of the daemon's work keeps the free slots zero. -/
theorem daemonMachine_zeroed (d : Daemon δ) (input : DaemonInput)
    (zeroed : SlotsZeroed d.ctx.tracker) :
    SlotsZeroed (daemonMachine.step d input).1.ctx.tracker := by
  have work := daemonMachine_work d input
  generalize (daemonMachine.step d input).1.ctx = after at work ⊢
  generalize (daemonMachine.step d input).2 = wrote at work
  cases work with
  | kept => exact zeroed
  | dropped => exact zeroed
  | served _ nowMs writeOk conn line _ pops =>
      rw [serveLine_tracker]
      exact (handleOneLine_tracker conn.fd d.ctx line nowMs writeOk).zeroed zeroed
  | scheduled healthMs createdMs writeOk =>
      exact (runScheduler_tracker d.ctx healthMs createdMs writeOk).zeroed zeroed
  | swept nowMs => exact zeroed.sweep nowMs

/-- Two contexts agree on the requests, the job and the modules. -/
structure SameWork (before after : AppCtx δ) : Prop where
  tracker : after.tracker = before.tracker
  jobState : after.jobState = before.jobState
  moduleRegistry : after.moduleRegistry = before.moduleRegistry

omit [CDouble δ] in
theorem SameWork.refl (ctx : AppCtx δ) : SameWork ctx ctx := ⟨rfl, rfl, rfl⟩

/-- A line that fails restores what it changed, when the free slots are zero. -/
theorem handleOneLine_failed {ctx : AppCtx δ} (zeroed : SlotsZeroed ctx.tracker) {fd : ℤ}
    {line : Bytes} {nowMs : ℤ} {writeOk : Bool}
    (failed : (handleOneLine fd ctx line nowMs writeOk).ret = -1) :
    SameWork ctx (handleOneLine fd ctx line nowMs writeOk).ctx := by
  have step := handleOneLine_step fd ctx line nowMs writeOk
  generalize handleOneLine fd ctx line nowMs writeOk = result at step failed ⊢
  cases step with
  | replied out =>
      rw [replyTo_ctx]
      exact .refl ctx
  | registered m =>
      obtain ⟨_, _, attached⟩ := handleRegister_ctx fd ctx m writeOk
      rw [attached]
      exact ⟨rfl, rfl, rfl⟩
  | response m i =>
      rw [handleResponse] at failed ⊢
      split at failed
      · rename_i client
        rw [if_pos client]
        cases sent : sendLine m wbufSize writeOk with
        | none => exact .refl ctx
        | some text =>
            rw [sent] at failed
            cases failed
      · cases failed
  | rolledBack m seq dev target i parsed forwardable free =>
      exact ⟨zeroed.remove_free free, rfl, rfl⟩
  | crowdedOut => exact .refl ctx
  | ignored => cases failed
  | recorded => cases failed
  | forwarded => cases failed

/-- **A failed line leaves the requests, the job and the modules alone**, in every state
equipmentd reaches. -/
theorem handleOneLine_restores (inputs : List DaemonInput) (fd : ℤ) (line : Bytes) (nowMs : ℤ)
    (writeOk : Bool) :
    let ctx := (daemonMachine.run (daemonInit : Daemon δ) inputs).ctx
    (handleOneLine fd ctx line nowMs writeOk).ret = -1 →
      SameWork ctx (handleOneLine fd ctx line nowMs writeOk).ctx := by
  intro ctx
  have zeroed : SlotsZeroed ctx.tracker :=
    Machine.invariant (M := daemonMachine) (I := fun d => SlotsZeroed d.ctx.tracker)
      daemonMachine_zeroed .init inputs
  exact handleOneLine_failed zeroed

end FailedLines

/-- A STOP that cannot be written to the module controller: the slot taken for it is zero again. -/
theorem handleOneLine_restores_stop :
    SameWork (daemonMachine.run (daemonInit : Daemon ℚ)
        [.accept 5 0 true, .feed 0 (ascii "REQ REGISTER seq=1\n") 1, .pop 0 1 true]).ctx
      (handleOneLine 7 (daemonMachine.run (daemonInit : Daemon ℚ)
        [.accept 5 0 true, .feed 0 (ascii "REQ REGISTER seq=1\n") 1, .pop 0 1 true]).ctx
        (ascii "REQ STOP dev=1 seq=21\n") 9 false).ctx :=
  handleOneLine_restores
    [.accept 5 0 true, .feed 0 (ascii "REQ REGISTER seq=1\n") 1, .pop 0 1 true] 7
    (ascii "REQ STOP dev=1 seq=21\n") 9 false (by decide)

end EquipmentControl
