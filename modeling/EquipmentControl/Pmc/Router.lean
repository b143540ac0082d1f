import EquipmentControl.Pmc.AuxDevice

/-!
# Routing in the process controller

The connection list, the interlock, the decision on a request of equipmentd and the routing of
messages (`pmc_connection.c`, `interlock.c`, `sequence_manager.c`, `pmc_router.c` and the sending
part of `io_manager.c` in `nodes/pmc/src`), and what the loop of `handle_connected_peer` in `main.c`
does with a line. The alarm record, which nothing reads, is left out.

The outcomes of writes are an input, by descriptor. `pmcRouteEqd_step` and `pmcRouteSim_step` say
everything that routing a message of equipmentd and of a sim can do.
-/

set_option autoImplicit false

namespace EquipmentControl

inductive PeerType where
  | unknown | eqd | sim
deriving DecidableEq, Repr

/-- `pmc_connection_t`. A pointer to it is its `id`. -/
structure PmcConnection where
  id : ℕ
  fd : ℤ
  type : PeerType
  registered : Bool
  devId : Int32
  state : CString 31
  hasState : Bool
deriving DecidableEq

/-- The process controller: its connections, from `g_head` on, and the aux session. -/
structure Pmc (τ : Type) where
  conns : List PmcConnection
  aux : Aux τ

def pmcFindEqd (conns : List PmcConnection) : Option PmcConnection :=
  conns.find? fun conn => conn.registered && decide (conn.type = .eqd)

def pmcFindSim (conns : List PmcConnection) (devId : Int32) : Option PmcConnection :=
  conns.find? fun conn =>
    conn.registered && decide (conn.type = .sim) && decide (conn.devId = devId)

/-- `pmc_interlock_check` returns 0. -/
def pmcInterlockCheck (sim : PmcConnection) (type : MsgType) : Bool :=
  sim.hasState &&
    match type with
    | .start => decide (sim.state.bytes = ascii "IDLE")
    | .stop => decide (sim.state.bytes = ascii "PROCESSING")
    | .reset => decide (sim.state.bytes = ascii "FAULT")
    | _ => true

/-- `pmc_seq_action_t`. The actions that use the sim carry it. -/
inductive PmcSeqAction where
  | routeToSim (sim : PmcConnection)
  | respondCachedStatus (sim : PmcConnection)
  | rejectMissingDev
  | rejectSimNotFound
  | rejectInterlock

/-- What `pmc_route_message` leaves: the controller, its result, and what it wrote where. -/
structure PmcResult (τ : Type) where
  pmc : Pmc τ
  ret : ℤ
  wrote : Option (ℤ × Bytes)

section Router

variable {δ τ : Type}

/-- `pmc_sequence_decide_eqd_request`. -/
def pmcSequenceDecideEqdRequest (sim : Option PmcConnection) (m : Message δ) : PmcSeqAction :=
  if m.dev = none then .rejectMissingDev
  else
    match sim with
    | none => .rejectSimNotFound
    | some sim =>
        if m.type = .status then .respondCachedStatus sim
        else if pmcInterlockCheck sim m.type then .routeToSim sim
        else .rejectInterlock

/-- `pmc_handle_register`: the connection when it registers. -/
def pmcHandleRegister (conn : PmcConnection) (m : Message δ) : Option PmcConnection :=
  if m.type ≠ .register then none
  else
    match m.role, m.dev with
    | .req, _ => some { conn with type := .eqd, registered := true, devId := -1 }
    | .evt, some dev => some { conn with type := .sim, registered := true, devId := dev.toInt32 }
    | _, _ => none

/-- The connection with the same `id` is replaced. -/
def updateConn (conns : List PmcConnection) (conn : PmcConnection) : List PmcConnection :=
  conns.map fun other => if other.id = conn.id then conn else other

/-- The message of `pmc_io_send_error`. -/
def pmcErrorMessage (req : Message δ) (code : Int32) (text : Bytes) : Message δ :=
  { role := .resp, type := .error, dev := req.dev, seq := req.seq, ok := some 0
    code := some code, msg := some (strncpy 127 text) }

variable [CDouble δ]

/-- The text of the aux snapshot in a STATUS response. -/
def auxText (aux : AuxSnapshot δ) : Option Bytes :=
  let heater := if aux.heaterOn then ascii "ON" else ascii "OFF"
  let temp := CDouble.fixed2 aux.tempC ++ ascii "C"
  if !aux.valid then none
  else if aux.heaterKnown && aux.tempKnown then some (ascii "aux_" ++ heater ++ ascii "_" ++ temp)
  else if aux.heaterKnown then some (ascii "aux_" ++ heater)
  else if aux.tempKnown then some (ascii "aux_temp_" ++ temp)
  else none

/-- The message of `pmc_io_send_status_cached`. -/
def pmcStatusMessage (req : Message δ) (sim : PmcConnection) (aux : AuxSnapshot δ) : Message δ :=
  { role := .resp, type := .status, dev := req.dev, seq := req.seq, ok := some 1
    state := some (if sim.hasState then sim.state else strncpy 31 (ascii "UNKNOWN"))
    msg := (auxText aux).map (strncpy 127) }

/-- `pmc_io_send_message`: what is written, `none` for the result -1. -/
def pmcIoSendMessage (fd : ℤ) (m : Message δ) (writeOk : ℤ → Bool) : Option (ℤ × Bytes) :=
  match lineFormat m 512 with
  | none => none
  | some line => if writeOk fd then some (fd, line) else none

/-- Send a message and return what `pmc_io_send_message` returns. -/
def pmcSend (pmc : Pmc τ) (fd : ℤ) (m : Message δ) (writeOk : ℤ → Bool) : PmcResult τ :=
  match pmcIoSendMessage fd m writeOk with
  | none => ⟨pmc, -1, none⟩
  | some wrote => ⟨pmc, 0, some wrote⟩

variable (io : SerialPort τ)

/-- The branch that routes to the sim: first the aux device, then the message. -/
def pmcRouteToSim (pmc : Pmc τ) (eqd sim : PmcConnection) (m : Message δ) (writeOk : ℤ → Bool) :
    PmcResult τ :=
  -- A message without a device is rejected before it comes here.
  match applyAuxForCommand io (m.dev.getD 0).toInt32 m.type pmc.aux with
  | (.error text, aux) =>
      pmcSend { pmc with aux := aux } eqd.fd
        (pmcErrorMessage m 502 (if text = [] then ascii "PICO_IO_FAILED" else text)) writeOk
  | (.ok _, aux) =>
      match pmcIoSendMessage sim.fd m writeOk with
      | none =>
          pmcSend { pmc with aux := aux } eqd.fd (pmcErrorMessage m 500 (ascii "SIM_CMD_FAILED"))
            writeOk
      | some wrote => ⟨{ pmc with aux := aux }, 0, some wrote⟩

/-- The part of `pmc_route_message` for messages from equipmentd. -/
def pmcRouteEqd (pmc : Pmc τ) (eqd : PmcConnection) (m : Message δ) (writeOk : ℤ → Bool) :
    PmcResult τ :=
  match pmcSequenceDecideEqdRequest (m.dev.bind fun dev => pmcFindSim pmc.conns dev.toInt32) m with
  | .rejectMissingDev =>
      pmcSend pmc eqd.fd (pmcErrorMessage m 400 (ascii "MISSING_DEV")) writeOk
  | .rejectSimNotFound =>
      pmcSend pmc eqd.fd (pmcErrorMessage m 404 (ascii "SIM_NOT_FOUND")) writeOk
  | .respondCachedStatus sim =>
      let snapshot : AuxSnapshot δ × Aux τ := readAuxSnapshot io sim.devId pmc.aux
      pmcSend { pmc with aux := snapshot.2 } eqd.fd (pmcStatusMessage m sim snapshot.1) writeOk
  | .rejectInterlock =>
      pmcSend pmc eqd.fd (pmcErrorMessage m 409 (ascii "PMC_INTERLOCK_BLOCKED")) writeOk
  | .routeToSim sim => pmcRouteToSim io pmc eqd sim m writeOk

/-- The part of `pmc_route_message` for messages from a sim: its state is remembered, and the
message passed on to equipmentd. -/
def pmcRouteSim (pmc : Pmc τ) (sim : PmcConnection) (m : Message δ) (writeOk : ℤ → Bool) :
    PmcResult τ :=
  let conns :=
    match m.type, m.state with
    | .status, some state => updateConn pmc.conns { sim with state := state, hasState := true }
    | _, _ => pmc.conns
  match pmcFindEqd conns with
  | none => ⟨{ pmc with conns := conns }, -1, none⟩
  | some eqd => pmcSend { pmc with conns := conns } eqd.fd m writeOk

/-- `pmc_route_message`. -/
def pmcRouteMessage (pmc : Pmc τ) (sender : PmcConnection) (m : Message δ)
    (writeOk : ℤ → Bool) : PmcResult τ :=
  if m.type = .register then ⟨pmc, 0, none⟩
  else if !sender.registered then ⟨pmc, -1, none⟩
  else
    match sender.type with
    | .eqd => pmcRouteEqd io pmc sender m writeOk
    | .sim => pmcRouteSim pmc sender m writeOk
    | .unknown => ⟨pmc, -1, none⟩

variable (δ) in
/-- What the loop of `handle_connected_peer` does with a line of a connection: the controller it
leaves, and what is written where. -/
def pmcServeLine (pmc : Pmc τ) (id : ℕ) (line : Bytes) (writeOk : ℤ → Bool) :
    Pmc τ × Option (ℤ × Bytes) :=
  match pmc.conns.find? fun conn => decide (conn.id = id), (lineParse line : Option (Message δ)) with
  | some conn, some m =>
      if !conn.registered then
        match pmcHandleRegister conn m with
        | some registered => ({ pmc with conns := updateConn pmc.conns registered }, none)
        | none => (pmc, none)
      else if m.type = .register then (pmc, none)
      else
        let result := pmcRouteMessage io pmc conn m writeOk
        (result.pmc, result.wrote)
  | _, _ => (pmc, none)

end Router

/-! ## What a message can do -/

section Steps

variable {δ τ : Type}

/-- A message is routed to a sim: it names the sim's module, and the interlock lets it pass. -/
def Routed (conns : List PmcConnection) (m : Message δ) (sim : PmcConnection) : Prop :=
  (∃ dev, m.dev = some dev ∧ pmcFindSim conns dev.toInt32 = some sim) ∧
    pmcInterlockCheck sim m.type = true

/-- What a message of equipmentd does: the connections stay, the heater is switched for a routed
message only, and what is written goes back to equipmentd, or is the routed message itself, after
the aux device has taken the command that goes with it. -/
structure EqdStep [CDouble δ] (pmc : Pmc (τ × List SerialOp)) (eqd : PmcConnection) (m : Message δ)
    (result : PmcResult (τ × List SerialOp)) : Prop where
  conns : result.pmc.conns = pmc.conns
  aux : HeaterStep m.type pmc.aux result.pmc.aux
  unrouted : (∀ sim, ¬ Routed pmc.conns m sim) →
    lastHeater result.pmc.aux.port.2 = lastHeater pmc.aux.port.2
  wrote : ∀ wrote ∈ result.wrote, wrote.1 = eqd.fd ∨
    ∃ sim, Routed pmc.conns m sim ∧ wrote = (sim.fd, lineText m ++ [10]) ∧
      (pmc.aux.cfg.enabled = true → sim.devId = 1 → (heaterFor m.type).isSome →
        lastHeater result.pmc.aux.port.2 = heaterFor m.type)

/-- What a message of a sim does: the aux session stays, the state of the sim may be remembered,
and what is written goes to equipmentd. -/
structure SimStep (pmc : Pmc τ) (sim : PmcConnection) (result : PmcResult τ) : Prop where
  aux : result.pmc.aux = pmc.aux
  conns : result.pmc.conns = pmc.conns ∨
    ∃ state, result.pmc.conns = updateConn pmc.conns { sim with state := state, hasState := true }
  wrote : ∀ wrote ∈ result.wrote, ∃ eqd,
    pmcFindEqd result.pmc.conns = some eqd ∧ wrote.1 = eqd.fd

theorem pmcFindSim_devId {conns : List PmcConnection} {devId : Int32} {sim : PmcConnection}
    (found : pmcFindSim conns devId = some sim) : sim ∈ conns ∧ sim.devId = devId := by
  have meets := List.find?_some found
  simp only [Bool.and_eq_true, decide_eq_true_eq] at meets
  exact ⟨List.mem_of_find?_eq_some found, meets.2⟩

variable [CDouble δ]

@[simp] theorem pmcSend_pmc (pmc : Pmc τ) (fd : ℤ) (m : Message δ) (writeOk : ℤ → Bool) :
    (pmcSend pmc fd m writeOk).pmc = pmc := by
  rw [pmcSend]
  split <;> rfl

theorem pmcIoSendMessage_some {fd : ℤ} {m : Message δ} {writeOk : ℤ → Bool} {wrote : ℤ × Bytes}
    (sent : pmcIoSendMessage fd m writeOk = some wrote) : wrote = (fd, lineText m ++ [10]) := by
  rw [pmcIoSendMessage, lineFormat_eq] at sent
  split at sent
  · cases sent
  rename_i line formatted
  split at formatted
  · cases formatted
  cases formatted
  split at sent
  · exact (Option.some.inj sent).symm
  · cases sent

theorem pmcSend_fd {pmc : Pmc τ} {fd : ℤ} {m : Message δ} {writeOk : ℤ → Bool} :
    ∀ wrote ∈ (pmcSend pmc fd m writeOk).wrote, wrote.1 = fd := by
  intro wrote written
  rw [pmcSend] at written
  split at written
  · cases written
  · rename_i sent
    cases written
    rw [pmcIoSendMessage_some sent]

/-- An answer to equipmentd after a step of the aux session. -/
theorem EqdStep.answerAfter {pmc : Pmc (τ × List SerialOp)} {eqd : PmcConnection}
    {m out : Message δ} {writeOk : ℤ → Bool} {aux : Aux (τ × List SerialOp)}
    (heater : HeaterStep m.type pmc.aux aux)
    (unrouted : (∀ sim, ¬ Routed pmc.conns m sim) →
      lastHeater aux.port.2 = lastHeater pmc.aux.port.2) :
    EqdStep pmc eqd m (pmcSend { pmc with aux := aux } eqd.fd out writeOk) where
  conns := by rw [pmcSend_pmc]
  aux := by
    rw [pmcSend_pmc]
    exact heater
  unrouted none := by
    rw [pmcSend_pmc]
    exact unrouted none
  wrote wrote written := .inl (pmcSend_fd wrote written)

/-- An answer to equipmentd that leaves the aux session alone. -/
theorem EqdStep.answer {pmc : Pmc (τ × List SerialOp)} {eqd : PmcConnection} {m out : Message δ}
    {writeOk : ℤ → Bool} : EqdStep pmc eqd m (pmcSend pmc eqd.fd out writeOk) :=
  .answerAfter (.refl m.type pmc.aux) fun _ => rfl

/-- The branches of routing to the sim: the aux device refuses the command, the message cannot be
sent, or it is sent. -/
inductive SimRoute (io : SerialPort τ) (pmc : Pmc τ) (eqd sim : PmcConnection) (m : Message δ)
    (dev : UInt32) (writeOk : ℤ → Bool) : PmcResult τ → Prop where
  | refused (text : Bytes) (aux : Aux τ) :
      applyAuxForCommand io dev.toInt32 m.type pmc.aux = (.error text, aux) →
      SimRoute io pmc eqd sim m dev writeOk (pmcSend { pmc with aux := aux } eqd.fd
        (pmcErrorMessage m 502 (if text = [] then ascii "PICO_IO_FAILED" else text)) writeOk)
  | unsent (aux : Aux τ) : applyAuxForCommand io dev.toInt32 m.type pmc.aux = (.ok (), aux) →
      pmcIoSendMessage sim.fd m writeOk = none →
      SimRoute io pmc eqd sim m dev writeOk (pmcSend { pmc with aux := aux } eqd.fd
        (pmcErrorMessage m 500 (ascii "SIM_CMD_FAILED")) writeOk)
  | sent (aux : Aux τ) (wrote : ℤ × Bytes) :
      applyAuxForCommand io dev.toInt32 m.type pmc.aux = (.ok (), aux) →
      pmcIoSendMessage sim.fd m writeOk = some wrote →
      SimRoute io pmc eqd sim m dev writeOk ⟨{ pmc with aux := aux }, 0, some wrote⟩

/-- **Everything routing to the sim does.** -/
theorem pmcRouteToSim_route (io : SerialPort τ) (pmc : Pmc τ) (eqd sim : PmcConnection)
    {m : Message δ} {dev : UInt32} (hasDev : m.dev = some dev) (writeOk : ℤ → Bool) :
    SimRoute io pmc eqd sim m dev writeOk (pmcRouteToSim io pmc eqd sim m writeOk) := by
  rw [pmcRouteToSim, hasDev, Option.getD_some]
  split
  · rename_i text aux refused
    exact .refused text aux refused
  · rename_i aux accepted
    split
    · rename_i unsent
      exact .unsent aux accepted unsent
    · rename_i wrote sent
      exact .sent aux wrote accepted sent

/-- What routing to the sim does to the heater, and what it writes. -/
theorem pmcRouteToSim_step (io : SerialPort τ) (pmc : Pmc (τ × List SerialOp))
    (eqd sim : PmcConnection) (m : Message δ) (writeOk : ℤ → Bool)
    (routed : Routed pmc.conns m sim) :
    EqdStep pmc eqd m (pmcRouteToSim io.logged pmc eqd sim m writeOk) := by
  obtain ⟨⟨dev, hasDev, found⟩, _⟩ := id routed
  have heater := applyAuxForCommand_heater io dev.toInt32 m.type pmc.aux
  have noRoute {unchanged : Prop} (unrouted : ∀ sim, ¬ Routed pmc.conns m sim) : unchanged :=
    absurd routed (unrouted sim)
  have route := pmcRouteToSim_route io.logged pmc eqd sim hasDev writeOk
  generalize pmcRouteToSim io.logged pmc eqd sim m writeOk = result at route ⊢
  cases route with
  | refused text aux refused =>
      rw [refused] at heater
      exact .answerAfter heater.1 noRoute
  | unsent aux accepted =>
      rw [accepted] at heater
      exact .answerAfter heater.1 noRoute
  | sent aux wrote accepted sent =>
      rw [accepted] at heater
      refine ⟨rfl, heater.1, noRoute, ?_⟩
      intro other written
      cases written
      refine .inr ⟨sim, routed, pmcIoSendMessage_some sent, ?_⟩
      intro enabled one command
      exact heater.2 enabled ((pmcFindSim_devId found).2.symm.trans one) rfl command

/-- The branches of `pmc_route_message` for a message of equipmentd: it is rejected, answered from
the remembered state, or routed to the sim. -/
inductive EqdRoute (io : SerialPort τ) (pmc : Pmc τ) (eqd : PmcConnection) (m : Message δ)
    (writeOk : ℤ → Bool) : PmcResult τ → Prop where
  | rejected (code : Int32) (text : Bytes) : (∀ sim, ¬ Routed pmc.conns m sim) →
      EqdRoute io pmc eqd m writeOk (pmcSend pmc eqd.fd (pmcErrorMessage m code text) writeOk)
  | status (dev : UInt32) (sim : PmcConnection) : m.type = .status → m.dev = some dev →
      pmcFindSim pmc.conns dev.toInt32 = some sim →
      EqdRoute io pmc eqd m writeOk
        (pmcSend { pmc with aux := (readAuxSnapshot (δ := δ) io sim.devId pmc.aux).2 } eqd.fd
          (pmcStatusMessage m sim (readAuxSnapshot io sim.devId pmc.aux).1) writeOk)
  | toSim (sim : PmcConnection) : Routed pmc.conns m sim → m.type ≠ .status →
      EqdRoute io pmc eqd m writeOk (pmcRouteToSim io pmc eqd sim m writeOk)

omit [CDouble δ] in
/-- A message that the interlock of its sim holds back is routed to no sim. -/
theorem not_routed {conns : List PmcConnection} {m : Message δ} {sim : PmcConnection} {dev : UInt32}
    (hasDev : m.dev = some dev) (found : pmcFindSim conns dev.toInt32 = some sim)
    (blocked : ¬ pmcInterlockCheck sim m.type = true) (other : PmcConnection) :
    ¬ Routed conns m other := by
  rintro ⟨⟨dev', hasDev', found'⟩, passes⟩
  cases hasDev.symm.trans hasDev'
  cases found.symm.trans found'
  exact blocked passes

/-- **Everything `pmc_route_message` does with a message of equipmentd.** -/
theorem pmcRouteEqd_route (io : SerialPort τ) (pmc : Pmc τ) (eqd : PmcConnection) (m : Message δ)
    (writeOk : ℤ → Bool) : EqdRoute io pmc eqd m writeOk (pmcRouteEqd io pmc eqd m writeOk) := by
  rw [pmcRouteEqd]
  cases hasDev : m.dev with
  | none =>
      simp only [pmcSequenceDecideEqdRequest, hasDev, if_true]
      refine .rejected _ _ ?_
      rintro sim ⟨⟨dev, named, _⟩, _⟩
      cases hasDev.symm.trans named
  | some dev =>
  simp only [pmcSequenceDecideEqdRequest, hasDev, reduceCtorEq, if_false, Option.bind_some]
  cases found : pmcFindSim pmc.conns dev.toInt32 with
  | none =>
      refine .rejected _ _ ?_
      rintro sim ⟨⟨dev', named, found'⟩, _⟩
      cases hasDev.symm.trans named
      cases found.symm.trans found'
  | some sim =>
  simp only
  by_cases isStatus : m.type = .status
  · rw [if_pos isStatus]
    exact .status dev sim isStatus hasDev found
  rw [if_neg isStatus]
  by_cases passes : pmcInterlockCheck sim m.type = true
  · rw [if_pos passes]
    exact .toSim sim ⟨⟨dev, hasDev, found⟩, passes⟩ isStatus
  · rw [if_neg passes]
    exact .rejected _ _ (not_routed hasDev found passes)

/-- **What a message of equipmentd does to the heater, and what it writes.** -/
theorem pmcRouteEqd_step (io : SerialPort τ) (pmc : Pmc (τ × List SerialOp))
    (eqd : PmcConnection) (m : Message δ) (writeOk : ℤ → Bool) :
    EqdStep pmc eqd m (pmcRouteEqd io.logged pmc eqd m writeOk) := by
  have route := pmcRouteEqd_route io.logged pmc eqd m writeOk
  generalize pmcRouteEqd io.logged pmc eqd m writeOk = result at route ⊢
  cases route with
  | rejected code text => exact .answer
  | status dev sim isStatus =>
      have read := readAuxSnapshot_heater (δ := δ) io m.type sim.devId pmc.aux
      refine .answerAfter read fun _ => ?_
      rcases read.heater with same | ⟨command, _⟩
      · exact same
      · rw [isStatus] at command
        cases command
  | toSim sim routed => exact pmcRouteToSim_step io pmc eqd sim m writeOk routed

/-- The heater is on after a message of equipmentd only if it was on before, or the message is a
START that is routed. -/
theorem EqdStep.on_cases {pmc : Pmc (τ × List SerialOp)} {eqd : PmcConnection} {m : Message δ}
    {result : PmcResult (τ × List SerialOp)} (step : EqdStep pmc eqd m result)
    (on : lastHeater result.pmc.aux.port.2 = some true) :
    lastHeater pmc.aux.port.2 = some true ∨ m.type = .start ∧ ∃ sim, Routed pmc.conns m sim := by
  by_cases routed : ∃ sim, Routed pmc.conns m sim
  · rcases step.aux.heater with same | ⟨_, command⟩
    · exact .inl (same.symm.trans on)
    · exact .inr ⟨heaterFor_on (command.symm.trans on), routed⟩
  · exact .inl ((step.unrouted (not_exists.mp routed)).symm.trans on)

/-- **What a routed message leaves as the last heater command** is the one that goes with its type,
when the aux device accepts it. -/
theorem pmcRouteEqd_heater (io : SerialPort τ) {pmc : Pmc (τ × List SerialOp)}
    (eqd : PmcConnection) {sim : PmcConnection} {m : Message δ} (writeOk : ℤ → Bool)
    (enabled : pmc.aux.cfg.enabled = true) (routed : Routed pmc.conns m sim)
    (isPreclean : sim.devId = 1) (command : (heaterFor m.type).isSome)
    (accepted : (applyAuxForCommand io.logged 1 m.type pmc.aux).1 = .ok ()) :
    lastHeater (pmcRouteEqd io.logged pmc eqd m writeOk).pmc.aux.port.2 = heaterFor m.type := by
  have route := pmcRouteEqd_route io.logged pmc eqd m writeOk
  generalize pmcRouteEqd io.logged pmc eqd m writeOk = result at route ⊢
  cases route with
  | rejected code text noSim => exact absurd routed (noSim sim)
  | status dev other isStatus =>
      rw [isStatus] at command
      cases command
  | toSim other routed' =>
  obtain ⟨⟨dev, hasDev, found⟩, _⟩ := routed
  have toPreclean : dev.toInt32 = 1 := (pmcFindSim_devId found).2.symm.trans isPreclean
  have heater := (applyAuxForCommand_heater io 1 m.type pmc.aux).2 enabled rfl accepted command
  have toSim := pmcRouteToSim_route io.logged pmc eqd other hasDev writeOk
  generalize pmcRouteToSim io.logged pmc eqd other m writeOk = result at toSim ⊢
  cases toSim with
  | refused text aux refused =>
      rw [← toPreclean, refused] at accepted
      cases accepted
  | unsent aux applied =>
      rw [← toPreclean, applied] at heater
      rw [pmcSend_pmc]
      exact heater
  | sent aux wrote applied =>
      rw [← toPreclean, applied] at heater
      exact heater

/-- A line of a registered connection: nothing happens for a line that is no message, or a
REGISTER. -/
theorem pmcServeLine_registered (io : SerialPort τ) {pmc : Pmc τ} {id : ℕ} {conn : PmcConnection}
    (found : (pmc.conns.find? fun conn => decide (conn.id = id)) = some conn)
    (registered : conn.registered = true) (line : Bytes) (writeOk : ℤ → Bool) :
    ((∀ m : Message δ, lineParse line = some m → m.type = .register) ∧
        pmcServeLine δ io pmc id line writeOk = (pmc, none)) ∨
      ∃ m : Message δ, lineParse line = some m ∧ m.type ≠ .register ∧
        pmcServeLine δ io pmc id line writeOk =
          ((pmcRouteMessage io pmc conn m writeOk).pmc,
            (pmcRouteMessage io pmc conn m writeOk).wrote) := by
  rw [pmcServeLine, found]
  cases parsed : (lineParse line : Option (Message δ)) with
  | none => exact .inl ⟨fun m isMessage => (by cases isMessage), rfl⟩
  | some m =>
  simp only [registered, Bool.not_true, Bool.false_eq_true, if_false]
  by_cases isRegister : m.type = .register
  · rw [if_pos isRegister]
    refine .inl ⟨fun other same => ?_, rfl⟩
    cases same
    exact isRegister
  · rw [if_neg isRegister]
    exact .inr ⟨m, rfl, isRegister, rfl⟩

/-- **Everything a message of a sim can do.** -/
theorem pmcRouteSim_step (pmc : Pmc τ) (sim : PmcConnection) (m : Message δ)
    (writeOk : ℤ → Bool) : SimStep pmc sim (pmcRouteSim pmc sim m writeOk) := by
  have remembered : ∃ conns, (conns = pmc.conns ∨
      ∃ state, conns = updateConn pmc.conns { sim with state := state, hasState := true }) ∧
      pmcRouteSim pmc sim m writeOk =
        match pmcFindEqd conns with
        | none => ⟨{ pmc with conns := conns }, -1, none⟩
        | some eqd => pmcSend { pmc with conns := conns } eqd.fd m writeOk := by
    refine ⟨_, ?_, rfl⟩
    split
    · exact .inr ⟨_, rfl⟩
    · exact .inl rfl
  obtain ⟨conns, known, same⟩ := remembered
  rw [same]
  cases found : pmcFindEqd conns with
  | none => exact ⟨rfl, known, fun _ wrote => absurd wrote (by simp)⟩
  | some eqd =>
      refine ⟨by rw [pmcSend_pmc], by rwa [pmcSend_pmc], ?_⟩
      intro wrote written
      refine ⟨eqd, ?_, pmcSend_fd wrote written⟩
      rwa [pmcSend_pmc]

end Steps

end EquipmentControl
