import EquipmentControl.Equipmentd.Daemon
import EquipmentControl.Equipmentd.JobRuns
import EquipmentControl.Equipmentd.LineSteps

/-!
# Runs of the control part

What happens to the application context alone: a line served, the scheduler's turn, a sweep of the
request tracker, the end of a connection (`services/equipmentd/src/main.c`). Descriptors and lines
are inputs, with no connections behind them.

Every run of the daemon is a run of the control part with the same writes (`daemon_control`), and
the job of every such run moves as `jobMachine` does (`control_job`).
-/

set_option autoImplicit false

namespace EquipmentControl

open InputMachine

/-- What happens to the context. -/
inductive ControlInput where
  | line (fd : ℤ) (text : Bytes) (nowMs : ℤ) (writeOk : Bool)
  | runScheduler (healthMs createdMs : ℤ) (writeOk : Bool)
  | sweepRequests (nowMs : ℤ)
  /-- The connection on a descriptor ends. -/
  | dropLinks (fd : ℤ)

section Control

variable {δ : Type} [CDouble δ]

/-- The context. Outputs are the descriptors and lines written. -/
def controlMachine : Machine (AppCtx δ) ControlInput (Option (ℤ × Bytes)) where
  step ctx
    | .line fd text nowMs writeOk =>
        let served := serveLine fd ctx text nowMs writeOk
        (served.ctx, served.wrote)
    | .runScheduler healthMs createdMs writeOk => runScheduler ctx healthMs createdMs writeOk
    | .sweepRequests nowMs =>
        ({ ctx with tracker := requestTrackerSweepTimeouts ctx.tracker nowMs }, none)
    | .dropLinks fd => (dropLinks ctx fd, none)

/-! ## The daemon's context -/

/-- A piece of the daemon's work leaves the context alone and writes nothing, or is a step of the
control part. -/
theorem daemonMachine_control (d : Daemon δ) (input : DaemonInput) :
    ((daemonMachine.step d input).1.ctx = d.ctx ∧ (daemonMachine.step d input).2 = none) ∨
      ∃ control, controlMachine.step d.ctx control =
        ((daemonMachine.step d input).1.ctx, (daemonMachine.step d input).2) := by
  have work := daemonMachine_work d input
  generalize (daemonMachine.step d input).1.ctx = after at work ⊢
  generalize (daemonMachine.step d input).2 = wrote at work ⊢
  cases work with
  | kept => exact .inl ⟨rfl, rfl⟩
  | dropped id fd => exact .inr ⟨.dropLinks fd, rfl⟩
  | served id nowMs writeOk conn line => exact .inr ⟨.line conn.fd line nowMs writeOk, rfl⟩
  | scheduled healthMs createdMs writeOk =>
      exact .inr ⟨.runScheduler healthMs createdMs writeOk, rfl⟩
  | swept nowMs => exact .inr ⟨.sweepRequests nowMs, rfl⟩

/-- **Every run of the daemon is a run of the control part**, with the same writes. -/
theorem daemon_control (d : Daemon δ) (inputs : List DaemonInput) :
    ∃ controls, controlMachine.run d.ctx controls = (daemonMachine.run d inputs).ctx ∧
      (controlMachine.outputs d.ctx controls).flatMap Option.toList =
        (daemonMachine.outputs d inputs).flatMap Option.toList := by
  refine Machine.run_simulated Daemon.ctx Option.toList Option.toList ?_ d inputs
  intro k input
  rcases daemonMachine_control k input with ⟨same, silent⟩ | ⟨control, same⟩
  · exact .inl ⟨same, by rw [silent]; rfl⟩
  · exact .inr ⟨control, by rw [same], by rw [same]⟩

/-! ## The job -/

/-- The part of the context that the job is made of. -/
def AppCtx.job (ctx : AppCtx δ) : JobCtx := ⟨ctx.nextSeq, ctx.jobState⟩

omit [CDouble δ] in
/-- The end of a response acknowledges the request of its slot, or leaves the job alone. -/
theorem finishResponse_job (ctx : AppCtx δ) (m : Message δ) (i : Fin requestTrackerMax) :
    (finishResponse ctx m i).job = ctx.job ∨
      (finishResponse ctx m i).job =
        (jobMachine.step ctx.job (.acked (δ := δ) (ctx.tracker i).type)).1 := by
  simp only [finishResponse]
  split
  · exact .inr rfl
  · exact .inl rfl

/-- A line acknowledges a request, or leaves the job alone. -/
theorem serveLine_job (fd : ℤ) (ctx : AppCtx δ) (line : Bytes) (nowMs : ℤ) (writeOk : Bool) :
    (serveLine fd ctx line nowMs writeOk).ctx.job = ctx.job ∨
      ∃ type, (serveLine fd ctx line nowMs writeOk).ctx.job =
        (jobMachine.step ctx.job (.acked (δ := δ) type)).1 := by
  have same : (serveLine fd ctx line nowMs writeOk).ctx.job =
      (handleOneLine fd ctx line nowMs writeOk).ctx.job := by
    rw [serveLine]
    split <;> rfl
  rw [same]
  have step := handleOneLine_step fd ctx line nowMs writeOk
  generalize handleOneLine fd ctx line nowMs writeOk = result at step ⊢
  cases step with
  | replied out => exact .inl (by rw [replyTo_ctx])
  | registered m =>
      obtain ⟨_, _, attached⟩ := handleRegister_ctx fd ctx m writeOk
      exact .inl (by rw [attached]; rfl)
  | response m i =>
      rcases handleResponse_ctx ctx m i writeOk with ⟨_, still⟩ | finished
      · exact .inl (by rw [still])
      · rw [finished]
        exact (finishResponse_job ctx m i).imp_right fun acked => ⟨_, acked⟩
  | _ => exact .inl rfl

/-- The scheduler's turn ticks, or leaves the job alone. -/
theorem runScheduler_job (ctx : AppCtx δ) (healthMs createdMs : ℤ) (writeOk : Bool) :
    (runScheduler ctx healthMs createdMs writeOk).1.job = ctx.job ∨
      (runScheduler ctx healthMs createdMs writeOk).1.job = (jobMachine.step ctx.job
        (.tick (refreshModuleHealth ctx.moduleRegistry healthMs)
          (trackerHasPending ctx.tracker))).1 := by
  have turn := runScheduler_turn ctx healthMs createdMs writeOk
  generalize runScheduler ctx healthMs createdMs writeOk = after at turn ⊢
  cases turn with
  | detached => exact .inl rfl
  | _ => exact .inr rfl

/-- **The job of every run moves as `jobMachine` does.** -/
theorem control_job (ctx : AppCtx δ) (controls : List ControlInput) :
    ∃ inputs : List (JobInput δ),
      jobMachine.run ctx.job inputs = (controlMachine.run ctx controls).job := by
  suffices simulated : ∀ ctx : AppCtx δ, ∀ control,
      (controlMachine.step ctx control).1.job = ctx.job ∨ ∃ input : JobInput δ,
        (jobMachine.step ctx.job input).1 = (controlMachine.step ctx control).1.job by
    obtain ⟨inputs, same, _⟩ := Machine.run_simulated AppCtx.job (fun _ => ([] : List Unit))
      (fun _ => []) (fun ctx control => (simulated ctx control).imp (fun still => ⟨still, rfl⟩)
        fun ⟨input, moved⟩ => ⟨input, moved, rfl⟩) ctx controls
    exact ⟨inputs, same⟩
  intro ctx control
  cases control with
  | line fd text nowMs writeOk =>
      rcases serveLine_job fd ctx text nowMs writeOk with still | ⟨type, acked⟩
      · exact .inl still
      · exact .inr ⟨.acked type, acked.symm⟩
  | runScheduler healthMs createdMs writeOk =>
      rcases runScheduler_job ctx healthMs createdMs writeOk with still | ticked
      · exact .inl still
      · exact .inr ⟨.tick _ _, ticked.symm⟩
  | sweepRequests nowMs => exact .inl rfl
  | dropLinks fd => exact .inl rfl

end Control

end EquipmentControl
