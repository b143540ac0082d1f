import EquipmentControl.Plant.FaultHeater
import EquipmentControl.Pmc.InterlockRuns

/-!
# The heater after a normal completion

The plant of the heater in FAULT, with the last command of equipmentd that goes with a heater
command and that the interlock let pass.

The simulator ends a run by itself. It switches its own heater off and reports DONE; the
controller remembers the report and passes it on. The heater of the aux device is switched off
with STOP, RESET and FAULT only, and from DONE on the interlock holds STOP and RESET back.

So the heater is off in every quiescent state that was last reported DONE, along every run in
which no DONE is delivered while START is the last of the commands (`completion_heater_off`).
These are the runs in which every completion is overtaken by a STOP that the simulator refuses, or
by a FAULT. `heater_on_after_completion` is a run that nothing disturbs.
-/

set_option autoImplicit false

namespace EquipmentControl

open InputMachine

section Completion

variable {δ τ : Type}

/-- The type of a message that goes with a heater command and is let through to its sim. -/
def heaterRouted (conns : List PmcConnection) (m : Message δ) : Option MsgType :=
  match m.dev.bind fun dev => pmcFindSim conns dev.toInt32 with
  | none => none
  | some sim =>
      if (heaterFor m.type).isSome && pmcInterlockCheck sim m.type then some m.type else none

theorem heaterRouted_iff {conns : List PmcConnection} {m : Message δ} {type : MsgType} :
    heaterRouted conns m = some type ↔
      (∃ sim, Routed conns m sim) ∧ (heaterFor m.type).isSome ∧ m.type = type := by
  rw [heaterRouted]
  constructor
  · intro routed
    split at routed
    · cases routed
    rename_i sim found
    split at routed
    · rename_i passes
      obtain ⟨command, passes⟩ := Bool.and_eq_true_iff.mp passes
      obtain ⟨dev, hasDev, found⟩ := Option.bind_eq_some_iff.mp found
      exact ⟨⟨sim, ⟨dev, hasDev, found⟩, passes⟩, command, Option.some.inj routed⟩
    · cases routed
  · rintro ⟨⟨sim, ⟨dev, hasDev, found⟩, passes⟩, command, rfl⟩
    rw [hasDev, Option.bind_some, found]
    simp only [command, passes, Bool.and_self, if_true]

/-- The last STATUS the controller received from the simulator is DONE. -/
def DoneReported (plant : Plant δ τ) : Prop :=
  ∃ sim ∈ pmcFindSim plant.pmc.conns 1, sim.hasState = true ∧ sim.state.bytes = ascii "DONE"

/-- When nothing is on its way and the last STATUS was DONE, the last heater command that was
written is not ON. -/
def CompletionHeaterOff (plant : Plant δ τ) : Prop :=
  plant.toSim = [] → plant.toPmc = [] → DoneReported plant →
    lastHeater plant.pmc.aux.port.2 ≠ some true

instance decidableDoneReported (plant : Plant δ τ) : Decidable (DoneReported plant) :=
  inferInstanceAs (Decidable (∃ sim ∈ pmcFindSim plant.pmc.conns 1,
    sim.hasState = true ∧ sim.state.bytes = ascii "DONE"))

instance decidableCompletionHeaterOff (plant : Plant δ τ) : Decidable (CompletionHeaterOff plant) :=
  inferInstanceAs (Decidable (_ → _ → _ → _))

/-- With the connections of the plant, DONE was reported when the connection of the simulator says
so. -/
theorem doneReported_iff {plant : Plant δ τ} {state : CString 31} {hasState : Bool}
    (conns : plant.pmc.conns = [plantSim state hasState, plantEqd]) :
    DoneReported plant ↔ hasState = true ∧ state.bytes = ascii "DONE" := by
  have found : pmcFindSim plant.pmc.conns 1 = some (plantSim state hasState) := by
    rw [conns]
    rfl
  rw [DoneReported, found]
  simp [plantSim]

variable [CDouble δ]

/-- A line of equipmentd that the interlock lets pass with a heater command is noted. -/
def noteCommand (plant : Plant δ τ) (input : PlantInput) (last : Option MsgType) :
    Option MsgType :=
  match input with
  | .request line _ =>
      ((lineParse line : Option (Message δ)).bind (heaterRouted plant.pmc.conns)).or last
  | _ => last

/-- No DONE is delivered while START is the last of the commands. -/
def CompletionOvertaken (s : Plant δ τ × Option MsgType) : PlantInput → Prop
  | .deliver _ => ∀ line ∈ s.1.toPmc.head?, ∀ m ∈ (lineParse line : Option (Message δ)),
      m.type = .status → ∀ state ∈ m.state, state.bytes = ascii "DONE" → s.2 ≠ some .start
  | _ => True

instance decidableCompletionOvertaken (s : Plant δ τ × Option MsgType) :
    ∀ input, Decidable (CompletionOvertaken s input)
  | .deliver _ => inferInstanceAs (Decidable
      (∀ line ∈ s.1.toPmc.head?, ∀ m ∈ (lineParse line : Option (Message δ)),
        m.type = .status → ∀ state ∈ m.state, state.bytes = ascii "DONE" → s.2 ≠ some .start))
  | .request _ _ | .simTurn _ => isTrue trivial

variable (io : SerialPort τ)

/-- The aux device acknowledges the heater command OFF of a line, if there is one. -/
def OffAcknowledged (plant : Plant δ τ) : PlantInput → Prop
  | .request line _ => ∀ m ∈ (lineParse line : Option (Message δ)),
      ∀ type ∈ heaterRouted plant.pmc.conns m, heaterFor type = some false →
        (applyAuxForCommand io.logged 1 type plant.pmc.aux).1 = .ok ()
  | _ => True

instance decidableOffAcknowledged (plant : Plant δ τ) :
    ∀ input, Decidable (OffAcknowledged io plant input)
  | .request line _ => inferInstanceAs (Decidable
      (∀ m ∈ (lineParse line : Option (Message δ)),
        ∀ type ∈ heaterRouted plant.pmc.conns m, heaterFor type = some false →
          (applyAuxForCommand io.logged 1 type plant.pmc.aux).1 = .ok ()))
  | .deliver _ | .simTurn _ => isTrue trivial

/-- The plant together with the last of the commands. -/
def commandMachine : Machine (Plant δ τ × Option MsgType) PlantInput Unit :=
  (plantMachine io).withRecord noteCommand

/-! ## The invariant -/

/-- The aux device is in use, the connections are those of the start, the heater is on only while
START is the last of the commands, and DONE was not reported since a START. -/
structure CompletionInvariant (s : Plant δ τ × Option MsgType) : Prop where
  enabled : s.1.pmc.aux.cfg.enabled = true
  conns : ∃ state hasState, s.1.pmc.conns = [plantSim state hasState, plantEqd]
  heater : lastHeater s.1.pmc.aux.port.2 = some true → s.2 = some .start
  done : DoneReported s.1 → s.2 ≠ some .start

omit [CDouble δ] in
/-- No START is let through when DONE was reported. -/
theorem heaterRouted_of_done {plant : Plant δ τ} {state : CString 31} {hasState : Bool}
    (conns : plant.pmc.conns = [plantSim state hasState, plantEqd]) {m : Message δ}
    (routed : heaterRouted plant.pmc.conns m = some .start) : ¬ DoneReported plant := by
  obtain ⟨⟨sim, ⟨dev, _, found⟩, passes⟩, _, type⟩ := heaterRouted_iff.mp routed
  rw [eq_plantSim conns found, type] at passes
  obtain ⟨_, idle⟩ := pmcInterlockCheck_state passes rfl
  rw [doneReported_iff conns]
  rintro ⟨_, done⟩
  exact absurd (idle.symm.trans done) (by decide)

/-- A line that is dropped is not noted. -/
theorem noteCommand_dropped {line : Bytes}
    (dropped : ∀ m : Message δ, lineParse line = some m → m.type = .register) (plant : Plant δ τ)
    (writeOk : ℤ → Bool) (last : Option MsgType) :
    noteCommand plant (.request line writeOk) last = last := by
  have none : (lineParse line : Option (Message δ)).bind (heaterRouted plant.pmc.conns) = none := by
    rw [Option.bind_eq_none_iff]
    intro m isMessage
    rw [Option.eq_none_iff_forall_ne_some]
    intro type routed
    have command := (heaterRouted_iff.mp routed).2.1
    rw [dropped m isMessage] at command
    cases command
  rw [noteCommand, none, Option.none_or]

/-- A line is noted as its message is routed. -/
theorem noteCommand_parsed {line : Bytes} {m : Message δ} (parsed : lineParse line = some m)
    (plant : Plant δ τ) (writeOk : ℤ → Bool) (last : Option MsgType) :
    noteCommand plant (.request line writeOk) last = (heaterRouted plant.pmc.conns m).or last := by
  rw [noteCommand, parsed]
  rfl

/-- **The heater is on after a message of equipmentd** only if START is the last of the commands,
when the aux device acknowledges OFF. -/
theorem eqd_heater_on {pmc : Pmc (τ × List SerialOp)} (enabled : pmc.aux.cfg.enabled = true)
    {state : CString 31} {hasState : Bool}
    (conns : pmc.conns = [plantSim state hasState, plantEqd]) {last : Option MsgType}
    (before : lastHeater pmc.aux.port.2 = some true → last = some .start) {m : Message δ}
    (acknowledged : ∀ type ∈ heaterRouted pmc.conns m, heaterFor type = some false →
      (applyAuxForCommand io.logged 1 type pmc.aux).1 = .ok ()) {writeOk : ℤ → Bool}
    (on : lastHeater (pmcRouteEqd io.logged pmc plantEqd m writeOk).pmc.aux.port.2 = some true) :
    (heaterRouted pmc.conns m).or last = some .start := by
  cases routed : heaterRouted pmc.conns m with
  | none =>
      rw [Option.none_or]
      rcases (pmcRouteEqd_step io pmc plantEqd m writeOk).on_cases on with
        wasOn | ⟨isStart, toSim⟩
      · exact before wasOn
      · have passed := heaterRouted_iff.mpr ⟨toSim, by rw [isStart]; rfl, rfl⟩
        cases routed.symm.trans passed
  | some type =>
      obtain ⟨⟨sim, toSim⟩, command, rfl⟩ := heaterRouted_iff.mp routed
      obtain ⟨⟨dev, _, found⟩, _⟩ := id toSim
      have isPreclean : sim.devId = 1 := by
        rw [eq_plantSim conns found]
        rfl
      obtain ⟨switchedOn, heater⟩ := Option.isSome_iff_exists.mp command
      cases switchedOn with
      | true => rw [heaterFor_on heater, Option.some_or]
      | false =>
          -- OFF was acknowledged, so the heater is not on.
          have off := pmcRouteEqd_heater io plantEqd writeOk enabled toSim isPreclean command
            (acknowledged m.type routed heater)
          rw [heater] at off
          exact absurd (off.symm.trans on) (by decide)

/-- A line of equipmentd keeps the invariant, when the aux device acknowledges OFF. -/
theorem CompletionInvariant.served_eqd {plant : Plant δ τ} {last : Option MsgType}
    (holds : CompletionInvariant (plant, last)) {line : Bytes} {writeOk : ℤ → Bool}
    (acknowledged : OffAcknowledged io plant (.request line writeOk)) :
    CompletionInvariant (plant.served (pmcServeLine δ io.logged plant.pmc 0 line writeOk),
      noteCommand plant (.request line writeOk) last) := by
  obtain ⟨state, hasState, conns⟩ := holds.conns
  rcases plantEqd_line (δ := δ) io conns line writeOk with ⟨dropped, idle⟩ | ⟨m, parsed, served⟩
  · rw [idle, Plant.served_idle, noteCommand_dropped dropped]
    exact holds
  have step := pmcRouteEqd_step io plant.pmc plantEqd m writeOk
  rw [served, noteCommand_parsed parsed]
  refine ⟨step.aux.enabled.trans holds.enabled, ⟨state, hasState, step.conns.trans conns⟩,
    eqd_heater_on io holds.enabled conns holds.heater (acknowledged m parsed), ?_⟩
  intro done
  rw [doneReported_iff (step.conns.trans conns), ← doneReported_iff conns] at done
  cases routed : heaterRouted plant.pmc.conns m with
  | none =>
      rw [Option.none_or]
      exact holds.done done
  | some type =>
      rw [Option.some_or]
      rintro ⟨rfl⟩
      exact heaterRouted_of_done conns routed done

/-- A line of the simulator keeps the invariant, unless it is a DONE while START is the last of
the commands. -/
theorem CompletionInvariant.served_sim {plant : Plant δ τ} {last : Option MsgType}
    (holds : CompletionInvariant (plant, last)) {line : Bytes} (writeOk : ℤ → Bool)
    (overtaken : ∀ m ∈ (lineParse line : Option (Message δ)), m.type = .status →
      ∀ state ∈ m.state, state.bytes = ascii "DONE" → last ≠ some .start) :
    CompletionInvariant (plant.served (pmcServeLine δ io.logged plant.pmc 1 line writeOk),
      last) := by
  obtain ⟨state, hasState, conns⟩ := holds.conns
  rcases plantSim_line (δ := δ) io conns line writeOk with ⟨_, idle⟩ | ⟨m, parsed, served⟩
  · rw [idle, Plant.served_idle]
    exact holds
  rw [served]
  have aux := (pmcRouteSim_step plant.pmc (plantSim state hasState) m writeOk).aux
  have after := pmcRouteSim_conns plant.pmc (plantSim state hasState) m writeOk
  have enabled := (congrArg (fun aux => aux.cfg.enabled) aux).trans holds.enabled
  have heater : lastHeater (pmcRouteSim plant.pmc (plantSim state hasState) m
      writeOk).pmc.aux.port.2 = some true → last = some .start := by
    rw [aux]
    exact holds.heater
  split at after
  · rename_i next type reported
    have known : (pmcRouteSim plant.pmc (plantSim state hasState) m writeOk).pmc.conns =
        [plantSim next true, plantEqd] := by
      rw [after, conns]
      rfl
    refine ⟨enabled, ⟨next, true, known⟩, heater, ?_⟩
    intro done
    rw [doneReported_iff known] at done
    exact overtaken m parsed type next reported done.2
  · refine ⟨enabled, ⟨state, hasState, after.trans conns⟩, heater, ?_⟩
    intro done
    rw [doneReported_iff (after.trans conns), ← doneReported_iff conns] at done
    exact holds.done done

/-- **One input keeps the invariant**, when the aux device acknowledges OFF, unless a DONE is
delivered while START is the last of the commands. -/
theorem commandMachine_invariant (s : Plant δ τ × Option MsgType) (input : PlantInput)
    (holds : CompletionInvariant s)
    (step : OffAcknowledged io s.1 input ∧ CompletionOvertaken s input) :
    CompletionInvariant ((commandMachine io).step s input).1 := by
  obtain ⟨plant, last⟩ := s
  cases input with
  | request line writeOk => exact holds.served_eqd io step.1
  | deliver writeOk =>
      simp only [commandMachine, Machine.withRecord, plantMachine, noteCommand]
      cases onItsWay : plant.toPmc with
      | nil => exact holds
      | cons line rest =>
          have popped : CompletionInvariant ({ plant with toPmc := rest }, last) :=
            ⟨holds.enabled, holds.conns, holds.heater, holds.done⟩
          exact popped.served_sim io writeOk (step.2 line (by rw [onItsWay]; rfl))
  | simTurn lines => exact ⟨holds.enabled, holds.conns, holds.heater, holds.done⟩

/-- **The heater is off after a completion that is overtaken**: in every quiescent state in which
DONE was reported last, of every run in which the aux device acknowledges OFF and no DONE is
delivered while START is the last command that was let through, the last heater command that was
written is not ON. -/
theorem completion_heater_off (cfg : AuxCfg) (enabled : cfg.enabled = true) (port : τ)
    (inputs : List PlantInput)
    (along : (commandMachine (δ := δ) io).Along
      (fun s input => OffAcknowledged io s.1 input ∧ CompletionOvertaken s input)
      (plantStart cfg port, none) inputs) :
    CompletionHeaterOff
      ((commandMachine (δ := δ) io).run (plantStart cfg port, none) inputs).1 := by
  have start : CompletionInvariant ((plantStart cfg port : Plant δ τ), none) :=
    ⟨enabled, ⟨.empty 31, false, rfl⟩, fun on => (by cases on), fun _ isStart => (by cases isStart)⟩
  have holds := Machine.invariant_along (commandMachine_invariant io) start along
  intro _ _ done on
  exact holds.done done (holds.heater on)

end Completion

/-- A START that the simulator runs to its end; the report of DONE is on its way. -/
def startToDone : List PlantInput :=
  delivered 1 ++ [ask "REQ START dev=1 seq=1\n", .simTurn 1] ++ delivered 3 ++
    List.replicate 5 (.simTurn 0)

/-- A STOP that comes before the simulator's report of DONE is delivered. -/
def stopBeforeDone : List PlantInput :=
  startToDone ++ [ask "REQ STOP dev=1 seq=2\n", .simTurn 1] ++ delivered 8

/-- The STOP passes on the old report and switches the heater off; the simulator refuses it, and
DONE is reported with the heater off. -/
theorem completion_heater_off_stopped :
    CompletionHeaterOff ((commandMachine auxDevicePort).run
      ((plantStart plantCfg ⟨false, []⟩ : Plant ℚ AuxDevice), none) stopBeforeDone).1 :=
  completion_heater_off auxDevicePort plantCfg rfl ⟨false, []⟩ stopBeforeDone (by decide +kernel)

/-- In a run that nothing disturbs, DONE is reported and the heater stays on. -/
theorem heater_on_after_completion :
    (obedientPlant (startToDone ++ delivered 6)).pmc.aux.port.1.heaterOn = true ∧
      ¬ CompletionHeaterOff (obedientPlant (startToDone ++ delivered 6)) := by
  decide +kernel

end EquipmentControl
