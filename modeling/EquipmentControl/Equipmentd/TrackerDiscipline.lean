import EquipmentControl.Equipmentd.Daemon
import EquipmentControl.Equipmentd.LineSteps

/-!
# Discipline of the request tracker

Clients and the scheduler share the slots of the tracker. In every state equipmentd reaches, with
any registry before each piece of work, at most one slot is the scheduler's and every other one
holds a forwarded request of a client (`tracker_disciplined`). The scheduler sends only when no
slot is taken, so it always finds a free one.
-/

set_option autoImplicit false

namespace EquipmentControl

open InputMachine

/-- A slot the scheduler takes. -/
structure ScheduledSlot (slot : PendingRequest) : Prop where
  client : slot.clientFd = -1
  type : slot.type = .start
  dev : slot.dev = 1 ∨ slot.dev = 2

/-- A slot taken for a client. -/
structure ClientSlot (slot : PendingRequest) : Prop where
  client : 0 ≤ slot.clientFd
  type : slot.type ∈ [.status, .reset, .fault, .start, .stop]
  dev : slot.dev = 1 ∨ slot.dev = 2 ∨ slot.dev = 100

/-- What holds of the slots that are taken. -/
structure Disciplined (t : RequestTracker) : Prop where
  scheduled : ∀ i, (t i).valid = true → (t i).fromScheduler = true → ScheduledSlot (t i)
  clients : ∀ i, (t i).valid = true → (t i).fromScheduler = false → ClientSlot (t i)
  single : ∀ i j, (t i).valid = true → (t i).fromScheduler = true → (t j).valid = true →
    (t j).fromScheduler = true → i = j

namespace Disciplined

theorem init : Disciplined requestTrackerInit :=
  ⟨fun _ valid => absurd valid Bool.false_ne_true, fun _ valid => absurd valid Bool.false_ne_true,
    fun _ _ valid => absurd valid Bool.false_ne_true⟩

/-- Slots may be freed, and taken for clients. -/
theorem step {t after : RequestTracker} (disciplined : Disciplined t)
    (slots : ∀ i, (after i).valid = true → after i = t i ∨
      (after i).fromScheduler = false ∧ ClientSlot (after i)) : Disciplined after := by
  have kept : ∀ i, (after i).valid = true → (after i).fromScheduler = true → after i = t i := by
    intro i valid scheduled
    refine (slots i valid).resolve_right fun ofClient => ?_
    cases scheduled.symm.trans ofClient.1
  refine ⟨fun i valid scheduled => ?_, fun i valid ofClient => ?_, ?_⟩
  · have same := kept i valid scheduled
    rw [same] at valid scheduled ⊢
    exact disciplined.scheduled i valid scheduled
  · rcases slots i valid with same | ⟨_, slot⟩
    · rw [same] at valid ofClient ⊢
      exact disciplined.clients i valid ofClient
    · exact slot
  · intro i j valid scheduled otherValid otherScheduled
    have same := kept i valid scheduled
    have otherSame := kept j otherValid otherScheduled
    rw [same] at valid scheduled
    rw [otherSame] at otherValid otherScheduled
    exact disciplined.single i j valid scheduled otherValid otherScheduled

/-- The scheduler takes the only slot. -/
theorem take {t : RequestTracker} (idle : ∀ i, (t i).valid = false) (i : Fin requestTrackerMax)
    {taken : PendingRequest} (scheduled : taken.fromScheduler = true)
    (slot : ScheduledSlot taken) : Disciplined (Function.update t i taken) := by
  have only : ∀ j, (Function.update t i taken j).valid = true → j = i := by
    intro j valid
    by_contra other
    rw [Function.update_of_ne other] at valid
    cases (idle j).symm.trans valid
  refine ⟨fun j valid _ => ?_, fun j valid ofClient => ?_, ?_⟩
  · rw [only j valid, Function.update_self]
    exact slot
  · rw [only j valid, Function.update_self] at ofClient
    cases scheduled.symm.trans ofClient
  · intro j k valid _ otherValid _
    rw [only j valid, only k otherValid]

end Disciplined

section Discipline

variable {δ : Type}

/-- The slot of a forwarded request. -/
theorem Forwardable.clientSlot {ctx : AppCtx δ} {m : Message δ} {seq dev : UInt32} {target : ℤ}
    (forwardable : Forwardable ctx m seq dev target) {fd : ℤ} (there : 0 ≤ fd) (nowMs : ℤ) :
    ClientSlot (clientRequest fd seq dev m.type nowMs) := by
  refine ⟨there, ?_, forwardable.dev⟩
  have forwarded := forwardable.type
  change m.type ∈ _
  cases type : m.type <;> rw [type] at forwarded
  all_goals first | decide | cases forwarded

/-- The slot of a START. -/
theorem StartsJob.scheduledSlot {ctx : AppCtx δ} {healthMs : ℤ} {dev : Int32}
    (starts : StartsJob ctx healthMs dev) (createdMs : ℤ) :
    ScheduledSlot (schedulerSlot ⟨true, ctx.nextSeq, dev⟩ createdMs) := by
  refine ⟨rfl, rfl, ?_⟩
  rcases starts.move.start.1 with rfl | rfl
  · exact .inl rfl
  · exact .inr rfl

/-- The daemon with another registry. -/
def Daemon.withRegistry (d : Daemon δ) (reg : ModuleRegistry δ) : Daemon δ :=
  { d with ctx := { d.ctx with moduleRegistry := reg } }

variable [CDouble δ]

/-- The daemon, with any registry put in place before a piece of work. -/
def anyRegistryMachine :
    Machine (Daemon δ) (ModuleRegistry δ × DaemonInput) (Option (ℤ × Bytes)) where
  step d input := daemonMachine.step (d.withRegistry input.1) input.2

/-- The daemon's own runs are among them. -/
theorem daemon_anyRegistry (d : Daemon δ) (inputs : List DaemonInput) :
    ∃ free, anyRegistryMachine.run d free = daemonMachine.run d inputs ∧
      (anyRegistryMachine.outputs d free).flatMap Option.toList =
        (daemonMachine.outputs d inputs).flatMap Option.toList :=
  Machine.run_simulated id Option.toList Option.toList
    (fun d input => .inr ⟨(d.ctx.moduleRegistry, input), rfl, rfl⟩) d inputs

/-! ## One piece of work -/

/-- No connection has a negative descriptor. -/
def DescriptorsNonneg (d : Daemon δ) : Prop := ∀ conn ∈ d.conns.list, 0 ≤ conn.fd

omit [CDouble δ] in
theorem DescriptorsNonneg.close {d : Daemon δ} (nonneg : DescriptorsNonneg d) (id : ℕ) :
    DescriptorsNonneg (closeConnection d id) :=
  fun conn member => nonneg conn (Connections.mem_close.mp member).1

omit [CDouble δ] in
theorem DescriptorsNonneg.update {d : Daemon δ} (nonneg : DescriptorsNonneg d) (id : ℕ)
    (session : Session) (lastActiveMs : ℤ) :
    ∀ conn ∈ (d.conns.update id session lastActiveMs).list, 0 ≤ conn.fd := by
  intro conn member
  obtain ⟨old, oldMember, rfl⟩ := List.mem_map.mp member
  rw [Connections.updated_fd]
  exact nonneg old oldMember

/-- `accept` returns no negative descriptor for a connection that is opened. -/
theorem daemonMachine_descriptors (d : Daemon δ) (input : DaemonInput)
    (nonneg : DescriptorsNonneg d) : DescriptorsNonneg (daemonMachine.step d input).1 := by
  cases input with
  | accept fd nowMs setUp =>
      change DescriptorsNonneg (acceptConnection d fd nowMs setUp)
      rw [acceptConnection]
      split
      · exact nonneg
      rename_i opened
      split
      · intro conn member
        rcases List.mem_cons.mp member with rfl | old
        · exact not_lt.mp fun negative => opened (.inl negative)
        · exact nonneg conn old
      · exact nonneg
  | feed id data nowMs =>
      change DescriptorsNonneg (feedConnection d id data nowMs)
      rcases feedConnection_cases d id data nowMs with
        same | ⟨conn, _, _, ⟨_, same⟩ | ⟨session, same⟩⟩ <;> rw [same]
      · exact nonneg
      · exact nonneg.close conn.id
      · exact nonneg.update conn.id session nowMs
  | pop id nowMs writeOk =>
      change DescriptorsNonneg (popConnection d id nowMs writeOk).1
      rcases popConnection_cases d id nowMs writeOk with same | ⟨conn, line, rest, _, same⟩ <;>
        rw [same]
      · exact nonneg
      · have served : DescriptorsNonneg (afterServing d conn line rest nowMs writeOk) :=
          nonneg.update conn.id rest conn.lastActiveMs
        dsimp only
        split
        · exact served.close conn.id
        · exact served
  | hangUp id =>
      change DescriptorsNonneg (hangUpConnection d id)
      rcases hangUpConnection_cases d id with same | ⟨conn, _, _, same⟩ <;> rw [same]
      · exact nonneg
      · exact DescriptorsNonneg.close (d := { d with ctx := dropLinks d.ctx conn.fd }) nonneg _
  | runScheduler healthMs createdMs writeOk => exact nonneg
  | sweepRequests nowMs => exact nonneg
  | scanConnections nowMs =>
      exact scanConnectionTimeout_preserves nowMs (fun _ conn kept _ _ _ => kept.close conn.id)
        nonneg

/-- Serving a line of a connection keeps the discipline. -/
theorem serveLine_disciplined {ctx : AppCtx δ} (disciplined : Disciplined ctx.tracker) {fd : ℤ}
    (there : 0 ≤ fd) (line : Bytes) (nowMs : ℤ) (writeOk : Bool) :
    Disciplined (serveLine fd ctx line nowMs writeOk).ctx.tracker := by
  rw [serveLine_tracker]
  refine disciplined.step fun i valid => ?_
  rcases handleOneLine_slot valid with same | ⟨m, seq, dev, _, _, forwardable, _, taken, _⟩
  · exact .inl same
  · rw [taken]
    exact .inr ⟨rfl, forwardable.clientSlot there nowMs⟩

/-- The scheduler's turn keeps the discipline. -/
theorem runScheduler_disciplined {ctx : AppCtx δ} (disciplined : Disciplined ctx.tracker)
    (healthMs createdMs : ℤ) (writeOk : Bool) :
    Disciplined (runScheduler ctx healthMs createdMs writeOk).1.tracker := by
  have turn := runScheduler_turn ctx healthMs createdMs writeOk
  generalize runScheduler ctx healthMs createdMs writeOk = after at turn ⊢
  cases turn with
  | detached => exact disciplined
  | ticked => exact disciplined
  | unsent dev i =>
      exact disciplined.step fun j valid => .inl (requestTrackerRemove_valid valid).2
  | sent dev i starts =>
      rw [starts.action]
      exact .take starts.idle i rfl (starts.scheduledSlot createdMs)

/-- **A piece of work keeps the discipline.** -/
theorem daemonMachine_disciplined (d : Daemon δ) (input : DaemonInput)
    (disciplined : Disciplined d.ctx.tracker) (nonneg : DescriptorsNonneg d) :
    Disciplined (daemonMachine.step d input).1.ctx.tracker := by
  have work := daemonMachine_work d input
  generalize (daemonMachine.step d input).1.ctx = after at work ⊢
  generalize (daemonMachine.step d input).2 = wrote at work
  cases work with
  | kept => exact disciplined
  | dropped => exact disciplined
  | served _ nowMs writeOk conn line _ pops =>
      exact serveLine_disciplined disciplined (nonneg conn pops.member) line nowMs writeOk
  | scheduled healthMs createdMs writeOk =>
      exact runScheduler_disciplined disciplined healthMs createdMs writeOk
  | swept => exact disciplined.step fun i valid => .inl (requestTrackerSweep_valid valid)

/-- **In every state equipmentd reaches**, with any registry before each piece of work, the tracker
is disciplined, and the scheduler writes a START only while no slot is taken and finds a free slot
whenever it has one to send. -/
theorem tracker_disciplined (inputs : List (ModuleRegistry δ × DaemonInput)) :
    let d := anyRegistryMachine.run (daemonInit : Daemon δ) inputs
    Disciplined d.ctx.tracker ∧ ∀ (reg : ModuleRegistry δ) (healthMs createdMs : ℤ) (writeOk : Bool),
      let ctx : AppCtx δ := { d.ctx with moduleRegistry := reg }
      ((runScheduler ctx healthMs createdMs writeOk).2 ≠ none → ∀ i, (ctx.tracker i).valid = false) ∧
        ((schedulerAction ctx healthMs).shouldSend = true →
          requestTrackerAlloc ctx.tracker ≠ none) := by
  intro d
  have kept : Disciplined d.ctx.tracker ∧ DescriptorsNonneg d := by
    refine Machine.invariant (M := anyRegistryMachine)
      (I := fun next => Disciplined next.ctx.tracker ∧ DescriptorsNonneg next) ?_
      ⟨.init, fun conn member => absurd member List.not_mem_nil⟩ inputs
    rintro next input ⟨disciplined, nonneg⟩
    exact ⟨daemonMachine_disciplined (next.withRegistry input.1) input.2 disciplined nonneg,
      daemonMachine_descriptors (next.withRegistry input.1) input.2 nonneg⟩
  refine ⟨kept.1, fun reg healthMs createdMs writeOk => ?_⟩
  intro ctx
  constructor
  · intro wrote
    obtain ⟨_, starts⟩ := runScheduler_wrote wrote
    exact starts.idle
  · intro sends
    have starts : startOf (schedulerAction ctx healthMs) ≠ none := by
      rw [startOf, if_pos sends]
      exact Option.some_ne_none _
    obtain ⟨nothing, _⟩ := (schedulerTick_start_iff _ _ _ _).mp starts
    exact requestTrackerAlloc_ne_none (trackerHasPending_eq_false.mp nothing)

end Discipline

end EquipmentControl
