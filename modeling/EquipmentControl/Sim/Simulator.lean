import EquipmentControl.Protocol.LineCodec

/-!
# The module simulator

The state machine, the process model and the main loop of `nodes/deviced/sim` (`fsm.c`,
`process_model.c`, `telemetry.c`, `main.c`). A turn of the loop handles the lines that have
arrived, ticks the state machine, reports a change of state, and sends telemetry; sends succeed.

Only a FAULT request takes the simulator into FAULT (`simTurn_not_fault`).
-/

set_option autoImplicit false

namespace EquipmentControl

/-! ## The state machine -/

inductive SimState where
  | booting | idle | ready | processing | done | fault | recovering
deriving DecidableEq, Repr

inductive SimCmd where
  | none | start | stop | reset | fault
deriving DecidableEq, Repr

/-- `fsm_t`. -/
structure Fsm where
  state : SimState
  processingTicks : ℕ
deriving DecidableEq

def fsmInit : Fsm := ⟨.booting, 0⟩

/-- `fsm_handle_command`, with its result. -/
def fsmHandleCommand (fsm : Fsm) (cmd : SimCmd) : Fsm × ℤ :=
  match cmd with
  | .start => if fsm.state = .idle ∨ fsm.state = .ready then (⟨.ready, 0⟩, 0) else (fsm, -2)
  | .stop => if fsm.state = .processing then (⟨.idle, 0⟩, 0) else (fsm, -2)
  | .reset => if fsm.state = .fault then (⟨.recovering, 0⟩, 0) else (fsm, -2)
  | .fault => (⟨.fault, 0⟩, 0)
  | .none => (fsm, -1)

/-- `fsm_tick`. -/
def fsmTick (fsm : Fsm) : Fsm :=
  match fsm.state with
  | .booting => { fsm with state := .idle }
  | .ready => ⟨.processing, 0⟩
  | .processing =>
      if 5 ≤ fsm.processingTicks + 1 then ⟨.done, 0⟩
      else { fsm with processingTicks := fsm.processingTicks + 1 }
  | .recovering => { fsm with state := .idle }
  | _ => fsm

/-- `fsm_state_to_string`. -/
def fsmStateToString : SimState → Bytes
  | .booting => ascii "BOOTING"
  | .idle => ascii "IDLE"
  | .ready => ascii "READY"
  | .processing => ascii "PROCESSING"
  | .fault => ascii "FAULT"
  | .recovering => ascii "RECOVERING"
  | .done => ascii "DONE"

/-- Only the command FAULT takes the machine into FAULT. -/
theorem fsmHandleCommand_fault {fsm : Fsm} {cmd : SimCmd} (other : cmd ≠ .fault)
    (notFault : fsm.state ≠ .fault) : (fsmHandleCommand fsm cmd).1.state ≠ .fault := by
  cases cmd
  case fault => exact absurd rfl other
  case none => exact notFault
  all_goals
    rw [fsmHandleCommand]
    split
    · decide
    · exact notFault

theorem fsmTick_fault {fsm : Fsm} (notFault : fsm.state ≠ .fault) :
    (fsmTick fsm).state ≠ .fault := by
  rw [fsmTick]
  split
  · simp
  · simp
  · rename_i processing
    split
    · simp
    · simp [processing]
  · simp
  · exact notFault

/-! ## The process model -/

/-- `process_model_t`. -/
structure ProcessModel (δ : Type) where
  temp : δ
  pressure : δ
  flow : δ
  heaterOn : Bool
  pumpOn : Bool

/-- What `main` keeps: the module number, the state machine, the process model and the state last
reported. -/
structure SimCtx (δ : Type) where
  devId : Int32
  fsm : Fsm
  model : ProcessModel δ
  lastState : SimState

section Simulator

variable {δ : Type}

/-- `process_model_apply_state`. -/
def processModelApplyState (model : ProcessModel δ) (state : SimState) : ProcessModel δ :=
  match state with
  | .processing => { model with heaterOn := true, pumpOn := true }
  | .idle | .ready | .done | .fault => { model with heaterOn := false, pumpOn := false }
  | _ => model

/-- `sim_cmd_from_message`. -/
def simCmdFromMessage (m : Message δ) : SimCmd :=
  match m.type with
  | .start => .start
  | .stop => .stop
  | .reset => .reset
  | .fault => .fault
  | _ => .none

/-- The response of `sim_handle_message` to a request with the given result. -/
def simResponse (devId : Int32) (m : Message δ) (rc : ℤ) : Message δ :=
  if rc = 0 then
    { role := .resp, type := m.type, dev := some devId.toUInt32, seq := m.seq, ok := some 1 }
  else
    { role := .resp, type := .error, dev := some devId.toUInt32, seq := m.seq, ok := some 0
      code := some 500, msg := some (strncpy 127 (ascii "SIM_CMD_FAILED")) }

/-- `sim_handle_message`: the response to a request, none to anything else. -/
def simHandleMessage (ctx : SimCtx δ) (m : Message δ) : SimCtx δ × Option (Message δ) :=
  if m.role ≠ .req then (ctx, none)
  else
    let handled := fsmHandleCommand ctx.fsm (simCmdFromMessage m)
    ({ ctx with fsm := handled.1 }, some (simResponse ctx.devId m handled.2))

/-- `telemetry_build_status_evt`. -/
def telemetryBuildStatusEvt (devId : Int32) (state : SimState) : Message δ :=
  { role := .evt, type := .status, dev := some devId.toUInt32
    state := some (strncpy 31 (fsmStateToString state)) }

/-- `telemetry_build_telemetry_evt`. -/
def telemetryBuildTelemetryEvt (devId : Int32) (model : ProcessModel δ) : Message δ :=
  { role := .evt, type := .telemetry, dev := some devId.toUInt32
    temp := some model.temp, pressure := some model.pressure, flow := some model.flow }

variable [CDouble δ]

/-- `process_model_init`. -/
def processModelInit : ProcessModel δ where
  temp := CDouble.literal 25
  pressure := CDouble.literal 1
  flow := CDouble.literal 0
  heaterOn := false
  pumpOn := false

/-- A value, held at a bound it went below. -/
def atLeast (bound : ℚ) (value : δ) : δ :=
  if CDouble.less value (CDouble.literal bound) then CDouble.literal bound else value

/-- A value, held at a bound it went above. -/
def atMost (bound : ℚ) (value : δ) : δ :=
  if CDouble.less (CDouble.literal bound) value then CDouble.literal bound else value

/-- `process_model_update`. -/
def processModelUpdate (model : ProcessModel δ) : ProcessModel δ :=
  { model with
    temp :=
      if model.heaterOn then CDouble.add model.temp (CDouble.literal (3 / 2))
      else atLeast 25 (CDouble.sub model.temp (CDouble.literal (1 / 2)))
    pressure :=
      if model.pumpOn then atLeast (1 / 10) (CDouble.sub model.pressure (CDouble.literal (1 / 20)))
      else atMost 1 (CDouble.add model.pressure (CDouble.literal (1 / 20)))
    flow :=
      if model.heaterOn then atMost 100 (CDouble.add model.flow (CDouble.literal 2))
      else atLeast 0 (CDouble.sub model.flow (CDouble.literal 2)) }

/-! ## The main loop -/

/-- `line_format` and `send`. -/
def simSend (m : Message δ) : List Bytes := (lineFormat m 1024).toList

/-- The body of the loop that pops lines. -/
def simServeLine (ctx : SimCtx δ) (line : Bytes) : SimCtx δ × List Bytes :=
  match (lineParse line : Option (Message δ)) with
  | none => (ctx, [])
  | some m => ((simHandleMessage ctx m).1, (simHandleMessage ctx m).2.toList.flatMap simSend)

/-- Serve lines in order. -/
def simServeLines (ctx : SimCtx δ) : List Bytes → SimCtx δ × List Bytes
  | [] => (ctx, [])
  | line :: lines =>
      let served := simServeLine ctx line
      let rest := simServeLines served.1 lines
      (rest.1, served.2 ++ rest.2)

/-- The rest of a turn: the tick, the report of a change, the process and the telemetry. -/
def simTick (ctx : SimCtx δ) : SimCtx δ × List Bytes :=
  let fsm := fsmTick ctx.fsm
  let model := processModelUpdate (processModelApplyState ctx.model fsm.state)
  ({ ctx with fsm := fsm, model := model, lastState := fsm.state },
    (if fsm.state ≠ ctx.lastState then
      simSend (telemetryBuildStatusEvt ctx.devId fsm.state : Message δ) else []) ++
    simSend (telemetryBuildTelemetryEvt ctx.devId model))

/-- A turn of the loop on the lines that have arrived. -/
def simTurn (ctx : SimCtx δ) (lines : List Bytes) : SimCtx δ × List Bytes :=
  let served := simServeLines ctx lines
  let ticked := simTick served.1
  (ticked.1, served.2 ++ ticked.2)

/-- What `main` has sent when it enters its loop: it registers, and reports the state after a
tick. -/
def simStart (devId : Int32) : SimCtx δ × List Bytes :=
  let fsm := fsmTick fsmInit
  (⟨devId, fsm, processModelInit, fsm.state⟩,
    (lineFormat ({ role := .evt, type := .register, dev := some devId.toUInt32 } : Message δ)
      512).toList ++ simSend (telemetryBuildStatusEvt devId fsm.state : Message δ))

/-! ## Into FAULT -/

variable (δ) in
/-- A line that the simulator takes for a FAULT request. -/
def IsFaultRequest (line : Bytes) : Prop :=
  ∃ m ∈ (lineParse line : Option (Message δ)), m.role = .req ∧ m.type = .fault

instance decidableIsFaultRequest (line : Bytes) : Decidable (IsFaultRequest δ line) :=
  inferInstanceAs (Decidable (∃ m ∈ (lineParse line : Option (Message δ)),
    m.role = .req ∧ m.type = .fault))

theorem simServeLine_not_fault {ctx : SimCtx δ} {line : Bytes} (other : ¬ IsFaultRequest δ line)
    (notFault : ctx.fsm.state ≠ .fault) : (simServeLine ctx line).1.fsm.state ≠ .fault := by
  rw [simServeLine]
  split
  · exact notFault
  rename_i m parsed
  rw [simHandleMessage]
  split
  · exact notFault
  rename_i isReq
  refine fsmHandleCommand_fault (fun same => other ⟨m, parsed, not_not.mp isReq, ?_⟩) notFault
  rw [simCmdFromMessage] at same
  split at same
  case h_4 type => exact type
  all_goals cases same

theorem simServeLines_not_fault {lines : List Bytes}
    (others : ∀ line ∈ lines, ¬ IsFaultRequest δ line) {ctx : SimCtx δ}
    (notFault : ctx.fsm.state ≠ .fault) :
    (simServeLines ctx lines).1.fsm.state ≠ .fault := by
  induction lines generalizing ctx with
  | nil => exact notFault
  | cons line lines ih =>
      exact ih (fun later member => others later (List.mem_cons_of_mem _ member))
        (simServeLine_not_fault (others line List.mem_cons_self) notFault)

/-- **A turn without a FAULT request does not lead into FAULT.** -/
theorem simTurn_not_fault {lines : List Bytes} (others : ∀ line ∈ lines, ¬ IsFaultRequest δ line)
    {ctx : SimCtx δ} (notFault : ctx.fsm.state ≠ .fault) :
    (simTurn ctx lines).1.fsm.state ≠ .fault :=
  fsmTick_fault (simServeLines_not_fault others notFault)

end Simulator

end EquipmentControl
