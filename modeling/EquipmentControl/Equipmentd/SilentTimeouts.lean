import EquipmentControl.Equipmentd.LineSteps
import EquipmentControl.Equipmentd.RequestOwners

/-!
# Requests that are dropped silently

When the slot of a client's request is freed while the connection the request arrived on stays
open, a RESP with its sequence number and device is meant to be written to the client in the same
step. A response that frees a slot is relayed; the sweep of the tracker frees the slots that have
waited too long and writes nothing. Every run answers its requests exactly when no sweep finds such
a slot (`answered_iff_no_timeout`). `timed_out_silently` is a client that is left waiting.
-/

set_option autoImplicit false

namespace EquipmentControl

open InputMachine

section Timeouts

variable {δ : Type}

/-- No sweep finds an overdue request whose client is still connected. -/
def NoTimeout (s : Daemon δ × Origins) : DaemonInput → Prop
  | .sweepRequests nowMs => ∀ i, (s.1.ctx.tracker i).valid = true →
      0 ≤ (s.1.ctx.tracker i).clientFd → (s.1.ctx.tracker i).Overdue nowMs →
        ∀ conn ∈ s.1.conns.list, s.2 i ≠ some conn.id
  | _ => True

variable [CDouble δ]

/-- The slot of a client's request is freed while the connection the request arrived on stays
open. -/
structure Freed (s : Daemon δ × Origins) (input : DaemonInput) (i : Fin requestTrackerMax) :
    Prop where
  valid : (s.1.ctx.tracker i).valid = true
  client : 0 ≤ (s.1.ctx.tracker i).clientFd
  freed : ((daemonMachine.step s.1 input).1.ctx.tracker i).valid = false
  stays : ∃ conn ∈ (daemonMachine.step s.1 input).1.conns.list, s.2 i = some conn.id

/-- A RESP for every slot that is freed is written to its client in the same step. -/
def FreesAnswered (s : Daemon δ × Origins) (input : DaemonInput) : Prop :=
  ∀ i, Freed s input i → ∃ m : Message δ, m.role = .resp ∧
    m.seq = some (s.1.ctx.tracker i).seq ∧ m.dev = some (s.1.ctx.tracker i).dev ∧
      (daemonMachine.step s.1 input).2 =
        some ((s.1.ctx.tracker i).clientFd, lineText m ++ [10])

/-- A slot that a line frees is answered by it. -/
theorem serveLine_answers {fd : ℤ} {ctx : AppCtx δ} {line : Bytes} {nowMs : ℤ} {writeOk : Bool}
    {i : Fin requestTrackerMax} (valid : (ctx.tracker i).valid = true)
    (client : 0 ≤ (ctx.tracker i).clientFd)
    (freed : ((serveLine fd ctx line nowMs writeOk).ctx.tracker i).valid = false) :
    ∃ m : Message δ, m.role = .resp ∧ m.seq = some (ctx.tracker i).seq ∧
      m.dev = some (ctx.tracker i).dev ∧ (serveLine fd ctx line nowMs writeOk).wrote =
        some ((ctx.tracker i).clientFd, lineText m ++ [10]) := by
  rw [serveLine_tracker] at freed
  rw [serveLine_wrote]
  obtain ⟨m, parsed, matched, relayed⟩ := handleOneLine_freed valid freed
  obtain ⟨_, role, seq, dev, hasSeq, hasDev, found⟩ := matchPending_some matched
  obtain ⟨_, rfl, rfl⟩ := requestTrackerFind_some found
  exact ⟨m, role, hasSeq, hasDev, relayed client⟩

/-- **A piece of work answers every slot it frees exactly when it is no sweep that finds an overdue
request** of a client that is still connected. -/
theorem freesAnswered_iff (s : Daemon δ × Origins) (input : DaemonInput) :
    FreesAnswered s input ↔ NoTimeout s input := by
  constructor
  · intro answered
    cases input with
    | sweepRequests nowMs =>
        intro i valid client overdue conn member origin
        have swept := (requestTrackerSweep_freed valid).mpr overdue
        obtain ⟨_, _, _, _, written⟩ := answered i ⟨valid, client, swept, conn, member, origin⟩
        cases written
    | _ => trivial
  · rintro quiet i ⟨valid, client, freed, stays⟩
    have work := daemonMachine_work s.1 input
    generalize (daemonMachine.step s.1 input).1.ctx = after at work freed
    generalize (daemonMachine.step s.1 input).2 = wrote at work ⊢
    cases work with
    | kept => cases freed.symm.trans valid
    | dropped => cases freed.symm.trans valid
    | served => exact serveLine_answers valid client freed
    | scheduled healthMs createdMs writeOk =>
        rw [runScheduler_kept valid, valid] at freed
        cases freed
    | swept nowMs =>
        obtain ⟨conn, member, origin⟩ := stays
        exact absurd origin
          (quiet i valid client ((requestTrackerSweep_freed valid).mp freed) conn member)

/-- **Every run answers each request it drops** while the client is connected, exactly when none of
its sweeps finds such a request overdue. -/
theorem answered_iff_no_timeout (inputs : List DaemonInput) :
    owningMachine.Along FreesAnswered ((daemonInit, fun _ => none) : Daemon δ × Origins) inputs ↔
      owningMachine.Along NoTimeout ((daemonInit, fun _ => none) : Daemon δ × Origins) inputs :=
  Machine.along_congr freesAnswered_iff

end Timeouts

/-- A client whose controller stays silent for ten seconds is told nothing. -/
theorem timed_out_silently :
    owningMachine.outputs unownedStart (statusAsked ++ [.sweepRequests 10031]) =
        [none, none, some (5, ascii "RESP REGISTER seq=1 ok=1\n"), none, none,
          some (5, ascii "REQ STATUS dev=1 seq=3\n"), none] ∧
      ¬ owningMachine.Along FreesAnswered unownedStart (statusAsked ++ [.sweepRequests 10031]) := by
  refine ⟨by decide, fun along => ?_⟩
  obtain ⟨_, answered, _⟩ := Machine.along_append.mp along
  obtain ⟨_, _, _, _, written⟩ := answered 0 ⟨by decide, by decide, by decide, by decide⟩
  cases written

end EquipmentControl
