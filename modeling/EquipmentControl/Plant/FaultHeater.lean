import EquipmentControl.Library.Machine
import EquipmentControl.Pmc.Router
import EquipmentControl.Protocol.RoundTrip
import EquipmentControl.Sim.Simulator

/-!
# The heater of a module in FAULT

The process controller with its aux device, and the simulator of module 1 behind two channels
that keep the order of lines. equipmentd sends what it likes, and lines are delivered and handled
at any time.

The controller lets a START pass on the STATUS it saw last, and switches the heater on before the
simulator has the START. The heater is off in every quiescent state with the simulator in FAULT,
along every run in which no START is routed while the simulator is in FAULT or a FAULT request is
on its way to it (`fault_heater_off`). `heater_on_in_fault` is a run with a START that overtakes
the report of FAULT.
-/

set_option autoImplicit false

namespace EquipmentControl

open InputMachine

/-- The controller with its port, the simulator, and the lines on their way between them. -/
structure Plant (δ τ : Type) where
  pmc : Pmc (τ × List SerialOp)
  sim : SimCtx δ
  toSim : List Bytes
  toPmc : List Bytes

/-- A line of equipmentd, the delivery of a line to the controller, or a turn of the simulator on
some of the lines sent to it. The outcomes of the controller's writes are part of the input. -/
inductive PlantInput where
  | request (line : Bytes) (writeOk : ℤ → Bool)
  | deliver (writeOk : ℤ → Bool)
  | simTurn (lines : ℕ)

/-- The connection of equipmentd. -/
def plantEqd : PmcConnection := ⟨0, 4, .eqd, true, -1, .empty 31, false⟩

/-- The connection of the simulator, with the state it was last seen in. -/
def plantSim (state : CString 31) (hasState : Bool) : PmcConnection :=
  ⟨1, 5, .sim, true, 1, state, hasState⟩

section Plant

variable {δ τ : Type}

/-- What the controller does with a line: what it writes to the simulator is on its way. -/
def Plant.served (plant : Plant δ τ) (result : Pmc (τ × List SerialOp) × Option (ℤ × Bytes)) :
    Plant δ τ :=
  { plant with
    pmc := result.1
    toSim := plant.toSim ++ (result.2.toList.filter fun wrote => decide (wrote.1 = 5)).map Prod.snd }

/-- A line with which the controller does nothing. -/
@[simp] theorem Plant.served_idle (plant : Plant δ τ) : plant.served (plant.pmc, none) = plant := by
  simp [Plant.served]

variable [CDouble δ]

/-- No FAULT has reached the simulator or is on its way to it. -/
def Plant.FaultFree (plant : Plant δ τ) : Prop :=
  plant.sim.fsm.state ≠ .fault ∧ ∀ line ∈ plant.toSim, ¬ IsFaultRequest δ line

instance decidableFaultFree (plant : Plant δ τ) : Decidable plant.FaultFree :=
  inferInstanceAs (Decidable (_ ∧ _))

/-- No START is routed to the simulator unless the plant is free of FAULT. -/
def SafeStart (plant : Plant δ τ) : PlantInput → Prop
  | .request line _ => ∀ m ∈ (lineParse line : Option (Message δ)), m.type = .start →
      ∀ sim ∈ m.dev.bind fun dev => pmcFindSim plant.pmc.conns dev.toInt32,
        pmcInterlockCheck sim .start = true → plant.FaultFree
  | _ => True

/-- When nothing is on its way and the simulator is in FAULT, the last heater command that was
written is not ON. -/
def FaultHeaterOff (plant : Plant δ τ) : Prop :=
  plant.toSim = [] → plant.toPmc = [] → plant.sim.fsm.state = .fault →
    lastHeater plant.pmc.aux.port.2 ≠ some true

instance decidableSafeStart (plant : Plant δ τ) : ∀ input, Decidable (SafeStart plant input)
  | .request line _ => inferInstanceAs (Decidable
      (∀ m ∈ (lineParse line : Option (Message δ)), m.type = .start →
        ∀ sim ∈ m.dev.bind fun dev => pmcFindSim plant.pmc.conns dev.toInt32,
          pmcInterlockCheck sim .start = true → plant.FaultFree))
  | .deliver _ | .simTurn _ => isTrue trivial

instance decidableFaultHeaterOff (plant : Plant δ τ) : Decidable (FaultHeaterOff plant) :=
  inferInstanceAs (Decidable (_ → _ → _ → _))

variable (io : SerialPort τ)

/-- The plant from one input to the next. -/
def plantMachine : Machine (Plant δ τ) PlantInput Unit where
  step plant input :=
    match input with
    | .request line writeOk =>
        (plant.served (pmcServeLine δ io.logged plant.pmc 0 line writeOk), ())
    | .deliver writeOk =>
        match plant.toPmc with
        | [] => (plant, ())
        | line :: rest =>
            ({ plant with toPmc := rest }.served
              (pmcServeLine δ io.logged plant.pmc 1 line writeOk), ())
    | .simTurn lines =>
        let turned := simTurn plant.sim (plant.toSim.take lines)
        ({ plant with
            sim := turned.1
            toSim := plant.toSim.drop lines
            toPmc := plant.toPmc ++ turned.2 }, ())

/-- Both peers have registered, and the simulator's first report is on its way. -/
def plantStart (cfg : AuxCfg) (port : τ) : Plant δ τ where
  pmc := ⟨[plantSim (.empty 31) false, plantEqd], cfg, (port, [])⟩
  sim := (simStart 1).1
  toSim := []
  toPmc := simSend (telemetryBuildStatusEvt 1 .idle : Message δ)

/-! ## The invariant -/

/-- The aux device is in use, the connections are those of the start, and the heater is on only
while the plant is free of FAULT. -/
structure PlantInvariant (plant : Plant δ τ) : Prop where
  enabled : plant.pmc.aux.cfg.enabled = true
  conns : ∃ state hasState, plant.pmc.conns = [plantSim state hasState, plantEqd]
  heater : lastHeater plant.pmc.aux.port.2 = some true → plant.FaultFree

/-- The only sim to be found is the simulator. -/
theorem eq_plantSim {conns : List PmcConnection} {state : CString 31} {hasState : Bool}
    (same : conns = [plantSim state hasState, plantEqd]) {devId : Int32} {sim : PmcConnection}
    (found : pmcFindSim conns devId = some sim) : sim = plantSim state hasState := by
  have meets := List.find?_some found
  simp only [Bool.and_eq_true, decide_eq_true_eq] at meets
  have member := (pmcFindSim_devId found).1
  rw [same] at member
  rcases List.mem_pair.mp member with isSim | isEqd
  · exact isSim
  · rw [isEqd] at meets
    cases meets.1.2

/-- A line of a registered peer is dropped, or its message is routed as `route` says. -/
theorem registered_line {pmc : Pmc (τ × List SerialOp)} {id : ℕ} {conn : PmcConnection}
    (found : (pmc.conns.find? fun conn => decide (conn.id = id)) = some conn)
    (registered : conn.registered = true) (line : Bytes) (writeOk : ℤ → Bool)
    {route : Message δ → PmcResult (τ × List SerialOp)}
    (routes : ∀ m : Message δ, m.type ≠ .register →
      pmcRouteMessage io.logged pmc conn m writeOk = route m) :
    ((∀ m : Message δ, lineParse line = some m → m.type = .register) ∧
        pmcServeLine δ io.logged pmc id line writeOk = (pmc, none)) ∨
      ∃ m : Message δ, lineParse line = some m ∧
        pmcServeLine δ io.logged pmc id line writeOk = ((route m).pmc, (route m).wrote) := by
  rcases pmcServeLine_registered (δ := δ) io.logged found registered line writeOk with
    idle | ⟨m, parsed, noRegister, served⟩
  · exact .inl idle
  · rw [routes m noRegister] at served
    exact .inr ⟨m, parsed, served⟩

/-- A line of the simulator is dropped, or routed as the message it carries. -/
theorem plantSim_line {pmc : Pmc (τ × List SerialOp)} {state : CString 31} {hasState : Bool}
    (conns : pmc.conns = [plantSim state hasState, plantEqd]) (line : Bytes)
    (writeOk : ℤ → Bool) :
    ((∀ m : Message δ, lineParse line = some m → m.type = .register) ∧
        pmcServeLine δ io.logged pmc 1 line writeOk = (pmc, none)) ∨
      ∃ m : Message δ, lineParse line = some m ∧ pmcServeLine δ io.logged pmc 1 line writeOk =
        ((pmcRouteSim pmc (plantSim state hasState) m writeOk).pmc,
          (pmcRouteSim pmc (plantSim state hasState) m writeOk).wrote) := by
  have found : (pmc.conns.find? fun conn => decide (conn.id = 1)) =
      some (plantSim state hasState) := by
    rw [conns]
    rfl
  refine registered_line io found rfl line writeOk fun m noRegister => ?_
  rw [pmcRouteMessage, if_neg noRegister]
  rfl

/-- A line of equipmentd is dropped, or routed as the message it carries. -/
theorem plantEqd_line {pmc : Pmc (τ × List SerialOp)} {state : CString 31} {hasState : Bool}
    (conns : pmc.conns = [plantSim state hasState, plantEqd]) (line : Bytes)
    (writeOk : ℤ → Bool) :
    ((∀ m : Message δ, lineParse line = some m → m.type = .register) ∧
        pmcServeLine δ io.logged pmc 0 line writeOk = (pmc, none)) ∨
      ∃ m : Message δ, lineParse line = some m ∧ pmcServeLine δ io.logged pmc 0 line writeOk =
        ((pmcRouteEqd io.logged pmc plantEqd m writeOk).pmc,
          (pmcRouteEqd io.logged pmc plantEqd m writeOk).wrote) := by
  have found : (pmc.conns.find? fun conn => decide (conn.id = 0)) = some plantEqd := by
    rw [conns]
    rfl
  refine registered_line io found rfl line writeOk fun m noRegister => ?_
  rw [pmcRouteMessage, if_neg noRegister]
  rfl

/-- The plant stays free of FAULT when the controller writes no FAULT request to the simulator. -/
theorem Plant.FaultFree.served {plant : Plant δ τ} (faultFree : plant.FaultFree)
    {result : Pmc (τ × List SerialOp) × Option (ℤ × Bytes)}
    (others : ∀ wrote ∈ result.2, wrote.1 = 5 → ¬ IsFaultRequest δ wrote.2) :
    (plant.served result).FaultFree := by
  refine ⟨faultFree.1, ?_⟩
  intro line member
  rcases List.mem_append.mp member with old | new
  · exact faultFree.2 line old
  · obtain ⟨⟨fd, text⟩, filtered, rfl⟩ := List.mem_map.mp new
    obtain ⟨written, there⟩ := List.mem_filter.mp filtered
    exact others _ (Option.mem_toList.mp written) (of_decide_eq_true there)

/-- A line of the simulator keeps the invariant. -/
theorem PlantInvariant.served_sim (plant : Plant δ τ) (holds : PlantInvariant plant) (line : Bytes)
    (writeOk : ℤ → Bool) :
    PlantInvariant (plant.served (pmcServeLine δ io.logged plant.pmc 1 line writeOk)) := by
  obtain ⟨state, hasState, conns⟩ := holds.conns
  rcases plantSim_line (δ := δ) io conns line writeOk with ⟨_, idle⟩ | ⟨m, _, served⟩
  · rw [idle, Plant.served_idle]
    exact holds
  rw [served]
  obtain ⟨aux, remembered, wrote⟩ := pmcRouteSim_step plant.pmc (plantSim state hasState) m writeOk
  have kept : ∃ next known, (pmcRouteSim plant.pmc (plantSim state hasState) m writeOk).pmc.conns =
      [plantSim next known, plantEqd] := by
    rcases remembered with same | ⟨next, updated⟩
    · exact ⟨state, hasState, same.trans conns⟩
    · exact ⟨next, true, by rw [updated, conns]; rfl⟩
  refine ⟨(congrArg (fun aux => aux.cfg.enabled) aux).trans holds.enabled, kept, ?_⟩
  intro on
  have before : lastHeater plant.pmc.aux.port.2 = some true := by
    rw [← aux]
    exact on
  -- What the message makes the controller write goes to equipmentd.
  apply (holds.heater before).served
  intro written member there
  obtain ⟨eqd, isEqd, same⟩ := wrote written member
  obtain ⟨next, known, after⟩ := kept
  rw [after] at isEqd
  cases isEqd
  exact absurd (same.symm.trans there) (by decide)

/-- A line of equipmentd keeps the invariant, unless it is a START that is not safe. -/
theorem PlantInvariant.served_eqd {plant : Plant δ τ} (holds : PlantInvariant plant) {line : Bytes}
    {writeOk : ℤ → Bool} (safe : SafeStart plant (.request line writeOk)) :
    PlantInvariant (plant.served (pmcServeLine δ io.logged plant.pmc 0 line writeOk)) := by
  obtain ⟨state, hasState, conns⟩ := holds.conns
  rcases plantEqd_line (δ := δ) io conns line writeOk with ⟨_, idle⟩ | ⟨m, parsed, served⟩
  · rw [idle, Plant.served_idle]
    exact holds
  rw [served]
  have step := pmcRouteEqd_step io plant.pmc plantEqd m writeOk
  refine ⟨step.aux.enabled.trans holds.enabled, ⟨state, hasState, step.conns.trans conns⟩, ?_⟩
  intro on
  have faultFree : plant.FaultFree := by
    rcases step.on_cases on with before | ⟨isStart, sim, ⟨dev, hasDev, known⟩, passes⟩
    · exact holds.heater before
    · refine safe m parsed isStart sim ?_ (isStart ▸ passes)
      rw [hasDev]
      exact known
  apply faultFree.served
  intro written member there isFault
  rcases step.wrote written member with toEqd | ⟨sim, ⟨⟨_, _, known⟩, _⟩, same, switched⟩
  · exact absurd (toEqd.symm.trans there) (by decide)
  rw [same] at there isFault
  have isSim : sim = plantSim state hasState := eq_plantSim conns known
  -- A FAULT is written only after the heater was switched off.
  obtain ⟨m', parsed', _, isFault⟩ := isFault
  have type := (lineParse_lineText_head parsed').2.symm.trans isFault
  have off := switched holds.enabled (by rw [isSim]; rfl) (by rw [type]; rfl)
  rw [type] at off
  exact absurd (off.symm.trans on) (by decide)

/-- **One input keeps the invariant**, unless it is a START that is not safe. -/
theorem plantMachine_invariant (plant : Plant δ τ) (input : PlantInput)
    (holds : PlantInvariant plant) (safe : SafeStart plant input) :
    PlantInvariant ((plantMachine io).step plant input).1 := by
  cases input with
  | request line writeOk => exact holds.served_eqd io safe
  | deliver writeOk =>
      simp only [plantMachine]
      split
      · exact holds
      · rename_i line rest _
        exact PlantInvariant.served_sim io { plant with toPmc := rest }
          ⟨holds.enabled, holds.conns, holds.heater⟩ line writeOk
  | simTurn lines =>
      refine ⟨holds.enabled, holds.conns, ?_⟩
      intro on
      obtain ⟨notFault, others⟩ := holds.heater on
      exact ⟨simTurn_not_fault (fun line member => others line (List.mem_of_mem_take member))
        notFault, fun line member => others line (List.mem_of_mem_drop member)⟩

/-- **The heater is off in FAULT**: in every quiescent state with the simulator in FAULT, of every
run in which no START is routed while the simulator is in FAULT or a FAULT request is on its way
to it, the last heater command that was written is not ON. -/
theorem fault_heater_off (cfg : AuxCfg) (enabled : cfg.enabled = true) (port : τ)
    (inputs : List PlantInput) (along : (plantMachine (δ := δ) io).Along SafeStart
      (plantStart cfg port) inputs) :
    FaultHeaterOff ((plantMachine (δ := δ) io).run (plantStart cfg port) inputs) := by
  have start : PlantInvariant (plantStart cfg port : Plant δ τ) :=
    ⟨enabled, ⟨.empty 31, false, rfl⟩, fun on => by cases on⟩
  have holds := Machine.invariant_along (plantMachine_invariant io) start along
  intro _ _ isFault on
  exact (holds.heater on).1 isFault

end Plant

/-- The plant with the obedient device, its heater off. -/
def obedientPlant (inputs : List PlantInput) : Plant ℚ AuxDevice :=
  (plantMachine auxDevicePort).run (plantStart plantCfg ⟨false, []⟩) inputs

/-- equipmentd sends a line, and every write succeeds. -/
def ask (text : String) : PlantInput := .request (ascii text) fun _ => true

/-- The next lines of the simulator are delivered. -/
def delivered (lines : ℕ) : List PlantInput := List.replicate lines (.deliver fun _ => true)

/-- A START that the simulator has handled before FAULT is sent. -/
def startThenFault : List PlantInput :=
  delivered 1 ++ [ask "REQ START dev=1 seq=1\n", .simTurn 1, ask "REQ FAULT dev=1 seq=2\n",
    .simTurn 1] ++ delivered 6

/-- A START that comes before the simulator's report of FAULT is delivered. -/
def faultThenStart : List PlantInput :=
  delivered 1 ++ [ask "REQ FAULT dev=1 seq=1\n", .simTurn 1, ask "REQ START dev=1 seq=2\n"] ++
    delivered 3 ++ [.simTurn 1] ++ delivered 2

/-- The FAULT switches the heater off again. -/
theorem fault_heater_off_started : FaultHeaterOff (obedientPlant startThenFault) :=
  fault_heater_off auxDevicePort plantCfg rfl ⟨false, []⟩ startThenFault (by decide +kernel)

/-- The START passes on the old report and switches the heater on; the simulator rejects it, and
the heater stays on. -/
theorem heater_on_in_fault :
    (obedientPlant faultThenStart).pmc.aux.port.1.heaterOn = true ∧
      ¬ FaultHeaterOff (obedientPlant faultThenStart) := by
  decide +kernel

end EquipmentControl
