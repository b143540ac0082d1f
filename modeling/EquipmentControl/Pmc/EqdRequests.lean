import EquipmentControl.Pmc.SerialReturns
import EquipmentControl.Protocol.RoundTrip

/-!
# What becomes of a request of equipmentd

Three laws of `pmc_route_message` for a message that comes from equipmentd.

A message has one outcome: one RESP goes back to equipmentd, or the message itself goes to one sim
(`eqd_message_one_outcome`). The call returns with it as long as the aux device sends only finitely
many bytes between two writes.

The aux device is meant to concern module 1 only. Its session is repaired before the module is
looked at, so the other modules are spared exactly while the device is off or its session is ready
(`aux_ignored_iff`).

A START that fails is meant to leave the heater off. Nothing undoes SET HEATER ON, so a START that
fails after that command was written leaves it on (`failed_start_iff`).
-/

set_option autoImplicit false

namespace EquipmentControl

section Requests

variable {δ τ : Type} [CDouble δ]

/-! ## One outcome -/

theorem pmcSend_wrote (pmc : Pmc τ) (fd : ℤ) (m : Message δ) (writeOk : ℤ → Bool) :
    (pmcSend pmc fd m writeOk).wrote = pmcIoSendMessage fd m writeOk := by
  rw [pmcSend]
  split <;> (rename_i result; rw [result])

/-- A message without telemetry always fits, so only the write can fail. -/
theorem pmcIoSendMessage_fits {m : Message δ} (temp : m.temp = none) (pressure : m.pressure = none)
    (flow : m.flow = none) (fd : ℤ) (writeOk : ℤ → Bool) :
    pmcIoSendMessage fd m writeOk = if writeOk fd then some (fd, lineText m ++ [10]) else none := by
  have short := lineText_length_le temp pressure flow
  rw [pmcIoSendMessage, lineFormat_eq, if_neg (by omega)]

/-- A message of equipmentd is routed by the part for equipmentd. -/
theorem pmcRouteMessage_eqd (io : SerialPort τ) (pmc : Pmc τ) {eqd : PmcConnection} {m : Message δ}
    (registered : eqd.registered = true) (isEqd : eqd.type = .eqd) (noRegister : m.type ≠ .register)
    (writeOk : ℤ → Bool) :
    pmcRouteMessage io pmc eqd m writeOk = pmcRouteEqd io pmc eqd m writeOk := by
  rw [pmcRouteMessage, if_neg noRegister, registered, isEqd]
  rfl

/-- A RESP to a request, with its device and sequence number. -/
structure RespondsTo (m out : Message δ) : Prop where
  role : out.role = .resp
  dev : out.dev = m.dev
  seq : out.seq = m.seq

/-- What a message of equipmentd leads to: a RESP to equipmentd, or the message to its sim. -/
inductive EqdOutcome (conns : List PmcConnection) (eqd : PmcConnection) (m : Message δ) :
    Option (ℤ × Bytes) → Prop where
  | answered (out : Message δ) : RespondsTo m out →
      EqdOutcome conns eqd m (some (eqd.fd, lineText out ++ [10]))
  | routed (dev : UInt32) (sim : PmcConnection) : m.dev = some dev →
      pmcFindSim conns dev.toInt32 = some sim →
      EqdOutcome conns eqd m (some (sim.fd, lineText m ++ [10]))

/-- A rejection is a RESP that equipmentd gets. -/
theorem EqdOutcome.error {conns : List PmcConnection} {eqd : PmcConnection} {m : Message δ}
    (pmc : Pmc τ) (code : Int32) (text : Bytes) {writeOk : ℤ → Bool}
    (writes : writeOk eqd.fd = true) :
    EqdOutcome conns eqd m (pmcSend pmc eqd.fd (pmcErrorMessage m code text) writeOk).wrote := by
  rw [pmcSend_wrote, pmcIoSendMessage_fits rfl rfl rfl, if_pos writes]
  exact .answered _ ⟨rfl, rfl, rfl⟩

/-- **Every message of equipmentd has one outcome**, and the call returns with it. -/
theorem eqd_message_one_outcome (io : SerialPort τ) (bounded : io.Bounded) (pmc : Pmc τ)
    (eqd : PmcConnection) (m : Message δ) (writeOk : ℤ → Bool) (registered : eqd.registered = true)
    (isEqd : eqd.type = .eqd) (noRegister : m.type ≠ .register)
    (writes : writeOk eqd.fd = true) :
    (io.Returns fun port =>
        pmcRouteMessage port ⟨pmc.conns, pmc.aux.cfg, pmc.aux.port, []⟩ eqd m writeOk) ∧
      EqdOutcome pmc.conns eqd m (pmcRouteMessage io pmc eqd m writeOk).wrote := by
  refine ⟨pmcRouteMessage_returns bounded pmc eqd m writeOk, ?_⟩
  rw [pmcRouteMessage_eqd io pmc registered isEqd noRegister]
  have route := pmcRouteEqd_route io pmc eqd m writeOk
  generalize pmcRouteEqd io pmc eqd m writeOk = result at route ⊢
  cases route with
  | rejected code text => exact .error _ code text writes
  | status dev sim _ hasDev found =>
      rw [pmcSend_wrote, pmcIoSendMessage_fits rfl rfl rfl, if_pos writes]
      exact .answered _ ⟨rfl, rfl, rfl⟩
  | toSim sim routed =>
      obtain ⟨⟨dev, hasDev, found⟩, _⟩ := routed
      have toSim := pmcRouteToSim_route io pmc eqd sim hasDev writeOk
      generalize pmcRouteToSim io pmc eqd sim m writeOk = result at toSim ⊢
      cases toSim with
      | refused text aux => exact .error _ 502 _ writes
      | unsent aux => exact .error _ 500 _ writes
      | sent aux wrote _ sent =>
          rw [pmcIoSendMessage_some sent]
          exact .routed dev sim hasDev found

/-! ## Modules without an aux device -/

/-- The aux device plays no part in a command for a module: it is not used, and what is sent is the
same as when the device is off. -/
structure AuxIgnored (io : SerialPort τ) (aux : Aux (τ × List SerialOp)) (devId : Int32)
    (type : MsgType) : Prop where
  unused : applyAuxForCommand io.logged devId type aux = (.ok (), aux)
  unseen : ∀ (conns : List PmcConnection) (eqd : PmcConnection) (m : Message δ) (dev : UInt32)
    (writeOk : ℤ → Bool) (off : Aux (τ × List SerialOp)), eqd.type = .eqd → m.type = type →
    m.dev = some dev → dev.toInt32 = devId → off.cfg.enabled = false →
      (pmcRouteMessage io.logged ⟨conns, aux⟩ eqd m writeOk).wrote =
        (pmcRouteMessage io.logged ⟨conns, off⟩ eqd m writeOk).wrote

omit [CDouble δ] in
/-- A device that is off is not used. -/
theorem applyAuxForCommand_off (io : SerialPort τ) (devId : Int32) (type : MsgType) {aux : Aux τ}
    (off : aux.cfg.enabled = false) : applyAuxForCommand io devId type aux = (.ok (), aux) := by
  rw [applyAuxForCommand, off]
  rfl

/-- A command of another module leaves the device alone when its session needs no repair. -/
theorem applyAuxForCommand_other (io : SerialPort τ) {devId : Int32} (other : devId ≠ 1)
    (type : MsgType) {aux : Aux τ} (ready : aux.cfg.sessionReady = true) :
    applyAuxForCommand io devId type aux = (.ok (), aux) := by
  simp [applyAuxForCommand, ready, other]

/-- A repaired session is ready. -/
theorem pmcAuxReconnect_ready (io : SerialPort τ) {aux next : Aux τ}
    (repaired : pmcAuxReconnect io aux = (true, next)) : next.cfg.sessionReady = true := by
  rw [pmcAuxReconnect] at repaired
  split at repaired
  · cases repaired
  simp only at repaired
  split at repaired
  · cases repaired
  · cases repaired
    rfl

/-- A command over a session that needs repair fails, or leaves the session repaired. -/
theorem applyAuxForCommand_repairs (io : SerialPort τ) {devId : Int32} (type : MsgType)
    (other : devId ≠ 1) {aux : Aux τ} (enabled : aux.cfg.enabled = true)
    (stale : aux.cfg.sessionReady = false) :
    applyAuxForCommand io devId type aux ≠ (.ok (), aux) := by
  intro same
  rw [applyAuxForCommand, enabled, stale] at same
  simp only [Bool.not_true, Bool.false_eq_true, if_false] at same
  split at same
  · cases same
  · rename_i next repaired
    rw [if_pos other] at same
    cases same
    rw [pmcAuxReconnect_ready io repaired] at stale
    cases stale

/-- Where the device is not used, it does not change what is sent. -/
theorem pmcRouteMessage_unseen (io : SerialPort τ) {conns : List PmcConnection}
    {eqd : PmcConnection} {m : Message δ} {dev : UInt32} {writeOk : ℤ → Bool} {aux off : Aux τ}
    (isEqd : eqd.type = .eqd) (hasDev : m.dev = some dev) (other : dev.toInt32 ≠ 1)
    (unused : applyAuxForCommand io dev.toInt32 m.type aux = (.ok (), aux))
    (isOff : off.cfg.enabled = false) :
    (pmcRouteMessage io ⟨conns, aux⟩ eqd m writeOk).wrote =
      (pmcRouteMessage io ⟨conns, off⟩ eqd m writeOk).wrote := by
  have noSnapshot : ∀ sim, pmcFindSim conns dev.toInt32 = some sim → ∀ aux : Aux τ,
      readAuxSnapshot (δ := δ) io sim.devId aux = (.zero, aux) := by
    intro sim found aux
    rw [readAuxSnapshot, (pmcFindSim_devId found).2, if_pos (.inl other)]
  rw [pmcRouteMessage, pmcRouteMessage]
  split
  · rfl
  split
  · rfl
  simp only [isEqd, pmcRouteEqd, pmcSequenceDecideEqdRequest, hasDev, reduceCtorEq, if_false,
    Option.bind_some]
  cases found : pmcFindSim conns dev.toInt32 with
  | none => simp only [pmcSend_wrote]
  | some sim =>
  simp only
  by_cases isStatus : m.type = .status
  · simp only [if_pos isStatus, noSnapshot sim found, pmcSend_wrote]
  by_cases passes : pmcInterlockCheck sim m.type = true
  · simp only [if_neg isStatus, if_pos passes, pmcRouteToSim, hasDev, Option.getD_some, unused,
      applyAuxForCommand_off io dev.toInt32 m.type isOff]
    split <;> simp only [pmcSend_wrote]
  · simp only [if_neg isStatus, if_neg passes, pmcSend_wrote]

/-- **The aux device is ignored for another module exactly while it is off or its session is
ready.** -/
theorem aux_ignored_iff (io : SerialPort τ) (aux : Aux (τ × List SerialOp)) (devId : Int32)
    (type : MsgType) (other : devId ≠ 1) :
    AuxIgnored (δ := δ) io aux devId type ↔
      aux.cfg.enabled = false ∨ aux.cfg.sessionReady = true := by
  constructor
  · intro ignored
    by_contra needsRepair
    rw [not_or, Bool.not_eq_false, Bool.not_eq_true] at needsRepair
    exact applyAuxForCommand_repairs io.logged type other needsRepair.1 needsRepair.2
      ignored.unused
  · intro spared
    have unused : ∀ kind, applyAuxForCommand io.logged devId kind aux = (.ok (), aux) := by
      intro kind
      rcases spared with off | ready
      · exact applyAuxForCommand_off io.logged devId kind off
      · exact applyAuxForCommand_other io.logged other kind ready
    refine ⟨unused type, ?_⟩
    rintro conns eqd m dev writeOk off isEqd rfl hasDev rfl isOff
    exact pmcRouteMessage_unseen io.logged isEqd hasDev other (unused m.type) isOff

/-! ## A START that fails -/

/-- A line is given to the device: its link is open, and the write succeeds. -/
def takesLine (io : SerialPort τ) (dev : PicoDevice) (cmd : Bytes) (port : τ) : Bool :=
  dev.connected && dev.link.isOpen && (io.write dev.link.fd (cmd ++ [10]) port).1

/-- The heater command is given to the device, at once or over a new session. -/
def heaterTaken (io : SerialPort τ) (on : Bool) (aux : Aux τ) : Bool :=
  takesLine io aux.cfg.dev (heaterLine on) aux.port ||
    match picoDeviceSetHeater io aux.cfg.dev on 128 aux.port with
    | (some _, _) => false
    | (none, port) =>
        match pmcAuxReconnect io { aux with port := port } with
        | (false, _) => false
        | (true, aux) => takesLine io aux.cfg.dev (heaterLine on) aux.port

/-- The device answers SET HEATER ON with `OK HEATER ON`. -/
def heaterOnAnswered (io : SerialPort τ) (aux : Aux τ) : Bool :=
  match (pmcAuxSetHeaterWithRetry io true 128 aux).1 with
  | none => false
  | some reply => pmcAuxReplyIs reply (ascii "OK HEATER ON")

/-- The aux session after its repair and a PING that was answered with `OK PONG`. -/
def pingedAux (io : SerialPort τ) (aux : Aux τ) : Option (Aux τ) :=
  match (if aux.cfg.sessionReady then (true, aux) else pmcAuxReconnect io aux) with
  | (false, _) => none
  | (true, aux) =>
      match pmcAuxPingWithRetry io 128 aux with
      | (none, _) => none
      | (some reply, aux) => if pmcAuxReplyIs reply (ascii "OK PONG") then some aux else none

/-- A heater command is the last one if it was given to the device. -/
theorem picoDeviceSetHeater_taken (io : SerialPort τ) (dev : PicoDevice) (on : Bool)
    (world : τ × List SerialOp) :
    lastHeater (picoDeviceSetHeater io.logged dev on 128 world).2.2 =
      if takesLine io.logged dev (heaterLine on) world then some on else lastHeater world.2 := by
  have short : ¬ 256 ≤ (heaterLine on).length + 1 := by cases on <;> decide
  rw [picoDeviceSetHeater, picoSendAndWait, takesLine, serialLinkWriteLine, if_neg short]
  cases dev.connected with
  | false => rfl
  | true =>
  cases dev.link.isOpen with
  | false => rfl
  | true =>
  cases written : io.logged.write dev.link.fd (heaterLine on ++ [10]) world with
  | mk ok next =>
  have logged : lastHeater next.2 = if ok then some on else lastHeater world.2 := by
    cases written
    rw [lastHeater_cons]
    cases (io.write dev.link.fd (heaterLine on ++ [10]) world.1).1 with
    | false => rfl
    | true => rw [heaterCommand_heaterLine]; rfl
  cases ok with
  | false => exact logged
  | true => exact (logged_silent io (· = some on)).reads.picoWait dev.link 128 5 logged

/-- Setting the heater with a retry makes the command the last one if it was given to the
device. -/
theorem pmcAuxSetHeaterWithRetry_taken (io : SerialPort τ) (on : Bool)
    (aux : Aux (τ × List SerialOp)) :
    lastHeater (pmcAuxSetHeaterWithRetry io.logged on 128 aux).2.port.2 =
      if heaterTaken io.logged on aux then some on else lastHeater aux.port.2 := by
  have first := picoDeviceSetHeater_taken io aux.cfg.dev on aux.port
  rw [pmcAuxSetHeaterWithRetry, auxWithRetry, heaterTaken]
  cases answered : picoDeviceSetHeater io.logged aux.cfg.dev on 128 aux.port with
  | mk reply port =>
  rw [answered] at first
  cases reply with
  | some reply => simpa using first
  | none =>
  have kept := (logged_silent io (· = lastHeater port.2)).pmcAuxReconnect
    { aux with port := port } rfl
  obtain ⟨ready, next, repaired⟩ : ∃ ready next,
      pmcAuxReconnect io.logged { aux with port := port } = (ready, next) := ⟨_, _, rfl⟩
  simp only [repaired] at kept ⊢
  cases ready with
  | false =>
      simp only [Bool.or_false]
      exact kept.trans first
  | true =>
  have second := picoDeviceSetHeater_taken io next.cfg.dev on next.port
  have either : lastHeater (picoDeviceSetHeater io.logged next.cfg.dev on 128 next.port).2.2 =
      if takesLine io.logged aux.cfg.dev (heaterLine on) aux.port ||
        takesLine io.logged next.cfg.dev (heaterLine on) next.port then some on
      else lastHeater aux.port.2 := by
    rw [second, show lastHeater next.port.2 = _ from kept.trans first]
    cases takesLine io.logged next.cfg.dev (heaterLine on) next.port <;>
      cases takesLine io.logged aux.cfg.dev (heaterLine on) aux.port <;> rfl
  simp only
  cases again : picoDeviceSetHeater io.logged next.cfg.dev on 128 next.port with
  | mk reply port =>
  rw [again] at either
  cases reply <;> exact either

/-- A START of module 1 fails before the heater is touched, or comes down to setting the heater. -/
theorem applyAuxForCommand_start (io : SerialPort τ) {aux : Aux (τ × List SerialOp)}
    (enabled : aux.cfg.enabled = true) :
    (pingedAux io.logged aux = none ∧ ∃ text after,
      applyAuxForCommand io.logged 1 .start aux = (.error text, after) ∧
        lastHeater after.port.2 = lastHeater aux.port.2) ∨
    ∃ next, pingedAux io.logged aux = some next ∧
      lastHeater next.port.2 = lastHeater aux.port.2 ∧
        applyAuxForCommand io.logged 1 .start aux = switchHeater io.logged true "OK HEATER ON"
          "AUX_HEATER_ON_FAILED" "AUX_HEATER_ON_BAD_REPLY" next := by
  have ready : lastHeater (if aux.cfg.sessionReady then (true, aux)
      else pmcAuxReconnect io.logged aux).2.port.2 = lastHeater aux.port.2 := by
    split
    · rfl
    · exact (logged_silent io (· = lastHeater aux.port.2)).pmcAuxReconnect aux rfl
  rw [applyAuxForCommand, enabled, pingedAux]
  cases repaired : (if aux.cfg.sessionReady then (true, aux) else pmcAuxReconnect io.logged aux) with
  | mk ok session =>
  rw [repaired] at ready
  cases ok with
  | false => exact .inl ⟨rfl, _, session, rfl, ready⟩
  | true =>
  have noHeater : ascii "PING" ≠ heaterLine true ∧ ascii "PING" ≠ heaterLine false := by decide
  have pinged := (auxWithRetry_sends (logged_sends_other io noHeater.1 noHeater.2
    (· = lastHeater aux.port.2)) 128 session ready).1
  change lastHeater (pmcAuxPingWithRetry io.logged 128 session).2.port.2 = _ at pinged
  simp only [applyAuxSwitch, Bool.not_true, Bool.false_eq_true, if_false, ne_eq,
    not_true_eq_false]
  cases answered : pmcAuxPingWithRetry io.logged 128 session with
  | mk reply next =>
  rw [answered] at pinged
  cases reply with
  | none => exact .inl ⟨rfl, _, next, rfl, pinged⟩
  | some reply =>
  simp only
  by_cases isPong : pmcAuxReplyIs reply (ascii "OK PONG") = true
  · simp only [if_pos isPong]
    exact .inr ⟨next, rfl, pinged, rfl⟩
  · simp only [if_neg isPong]
    exact .inl ⟨trivial, _, next, rfl, pinged⟩

/-- Setting the heater for a START succeeds when the device answers as expected. -/
theorem switchHeater_on (io : SerialPort τ) (failed bad : String) (aux : Aux τ) :
    (switchHeater io true "OK HEATER ON" failed bad aux).2 =
        (pmcAuxSetHeaterWithRetry io true 128 aux).2 ∧
      ((switchHeater io true "OK HEATER ON" failed bad aux).1 = .ok () ↔
        heaterOnAnswered io aux = true) := by
  rw [switchHeater, heaterOnAnswered]
  cases answered : pmcAuxSetHeaterWithRetry io true 128 aux with
  | mk reply next =>
  cases reply with
  | none => simp
  | some reply =>
  simp only
  split <;> simp_all

/-- **When a START of module 1 leaves the heater on**, in a port whose log has no heater command. -/
theorem start_heater_on (io : SerialPort τ) (aux : Aux (τ × List SerialOp))
    (unlogged : lastHeater aux.port.2 = none) :
    lastHeater (applyAuxForCommand io.logged 1 .start aux).2.port.2 = some true ↔
      aux.cfg.enabled = true ∧ ∃ next, pingedAux io.logged aux = some next ∧
        heaterTaken io.logged true next = true := by
  cases enabled : aux.cfg.enabled with
  | false =>
      rw [applyAuxForCommand_off io.logged 1 .start enabled, unlogged]
      simp
  | true =>
  rcases applyAuxForCommand_start io enabled with
    ⟨none, text, after, failed, same⟩ | ⟨next, pinged, same, switches⟩
  · rw [failed, same, unlogged, none]
    simp
  · rw [switches, (switchHeater_on io.logged _ _ next).1, pmcAuxSetHeaterWithRetry_taken, same,
      unlogged, pinged]
    simp

/-- A START of module 1 succeeds after a PING only with the expected answer. -/
theorem start_answered (io : SerialPort τ) (aux next : Aux (τ × List SerialOp))
    (enabled : aux.cfg.enabled = true) (pinged : pingedAux io.logged aux = some next) :
    (applyAuxForCommand io.logged 1 .start aux).1 = .ok () ↔
      heaterOnAnswered io.logged next = true := by
  rcases applyAuxForCommand_start io enabled with ⟨none, _⟩ | ⟨other, otherPinged, _, switches⟩
  · cases none.symm.trans pinged
  · cases otherPinged.symm.trans pinged
    rw [switches]
    exact (switchHeater_on io.logged _ _ next).2

/-- equipmentd is answered with a RESP ERROR. -/
def AnswersError (δ : Type) [CDouble δ] (eqd : PmcConnection) (wrote : Option (ℤ × Bytes)) : Prop :=
  ∃ out : Message δ, out.role = .resp ∧ out.type = .error ∧
    wrote = some (eqd.fd, lineText out ++ [10])

/-- The branch in which a START fails too late: it is routed, the session is ready and answers the
PING, the heater command is given to the device, and then the answer is not as expected or the sim
cannot be reached, while equipmentd can. -/
def FailsLate (io : SerialPort τ) (pmc : Pmc (τ × List SerialOp)) (eqd : PmcConnection)
    (m : Message δ) (writeOk : ℤ → Bool) : Prop :=
  writeOk eqd.fd = true ∧ pmc.aux.cfg.enabled = true ∧ ∃ sim, Routed pmc.conns m sim ∧
    ∃ next, pingedAux io.logged pmc.aux = some next ∧ heaterTaken io.logged true next = true ∧
      (heaterOnAnswered io.logged next = false ∨ 510 < (lineText m).length ∨
        writeOk sim.fd = false)

theorem pmcIoSendMessage_none {fd : ℤ} {m : Message δ} {writeOk : ℤ → Bool} :
    pmcIoSendMessage fd m writeOk = none ↔ 510 < (lineText m).length ∨ writeOk fd = false := by
  rw [pmcIoSendMessage, lineFormat_eq]
  by_cases long : 510 < (lineText m).length
  · rw [if_pos (show 512 < 8 ∨ 512 < (lineText m).length + 2 by omega)]
    exact iff_of_true rfl (.inl long)
  · rw [if_neg (show ¬ (512 < 8 ∨ 512 < (lineText m).length + 2) by omega)]
    cases writeOk fd <;> simp [long]

theorem answersError_error (pmc : Pmc τ) (eqd : PmcConnection) (m : Message δ) (code : Int32)
    (text : Bytes) (writeOk : ℤ → Bool) :
    AnswersError δ eqd (pmcSend pmc eqd.fd (pmcErrorMessage m code text) writeOk).wrote ↔
      writeOk eqd.fd = true := by
  rw [pmcSend_wrote, pmcIoSendMessage_fits rfl rfl rfl]
  constructor
  · rintro ⟨_, _, _, wrote⟩
    split at wrote
    · assumption
    · cases wrote
  · intro writes
    rw [if_pos writes]
    exact ⟨_, rfl, rfl, rfl⟩

omit [CDouble δ] in
/-- A message is routed to one sim only. -/
theorem Routed.unique {conns : List PmcConnection} {m : Message δ} {sim other : PmcConnection}
    (one : Routed conns m sim) (two : Routed conns m other) : sim = other := by
  obtain ⟨⟨dev, hasDev, found⟩, _⟩ := one
  obtain ⟨⟨dev', hasDev', found'⟩, _⟩ := two
  cases hasDev.symm.trans hasDev'
  exact Option.some.inj (found.symm.trans found')

/-- For a START that is routed and fails, the branch is decided by the heater command alone. -/
theorem failsLate_iff {io : SerialPort τ} {pmc : Pmc (τ × List SerialOp)} {eqd sim : PmcConnection}
    {m : Message δ} {writeOk : ℤ → Bool} (routed : Routed pmc.conns m sim)
    (fails : ∀ next, pmc.aux.cfg.enabled = true → pingedAux io.logged pmc.aux = some next →
      heaterOnAnswered io.logged next = false ∨ pmcIoSendMessage sim.fd m writeOk = none) :
    FailsLate io pmc eqd m writeOk ↔ writeOk eqd.fd = true ∧ pmc.aux.cfg.enabled = true ∧
      ∃ next, pingedAux io.logged pmc.aux = some next ∧ heaterTaken io.logged true next = true := by
  constructor
  · rintro ⟨writes, enabled, _, _, next, pinged, taken, _⟩
    exact ⟨writes, enabled, next, pinged, taken⟩
  · rintro ⟨writes, enabled, next, pinged, taken⟩
    refine ⟨writes, enabled, sim, routed, next, pinged, taken, ?_⟩
    rw [← pmcIoSendMessage_none]
    exact fails next enabled pinged

/-- **A START of module 1 that is answered with an error leaves the heater off exactly when it does
not fail late.** -/
theorem failed_start_iff (io : SerialPort τ) (conns : List PmcConnection) (cfg : AuxCfg) (port : τ)
    (eqd : PmcConnection) (m : Message δ) (writeOk : ℤ → Bool)
    (registered : eqd.registered = true) (isEqd : eqd.type = .eqd) (isStart : m.type = .start)
    (toPreclean : m.dev = some 1) :
    let pmc : Pmc (τ × List SerialOp) := ⟨conns, cfg, port, []⟩
    let result := pmcRouteMessage io.logged pmc eqd m writeOk
    (AnswersError δ eqd result.wrote → lastHeater result.pmc.aux.port.2 ≠ some true) ↔
      ¬ FailsLate io pmc eqd m writeOk := by
  intro pmc
  simp only
  rw [pmcRouteMessage_eqd io.logged pmc registered isEqd (by rw [isStart]; decide)]
  have route := pmcRouteEqd_route io.logged pmc eqd m writeOk
  generalize pmcRouteEqd io.logged pmc eqd m writeOk = result at route ⊢
  cases route with
  | rejected code text unrouted =>
      rw [pmcSend_pmc]
      refine iff_of_true (fun _ on => by cases on) ?_
      rintro ⟨_, _, sim, routed, _⟩
      exact unrouted sim routed
  | status dev sim isStatus => cases isStart.symm.trans isStatus
  | toSim sim routed =>
  have heater := start_heater_on io pmc.aux rfl
  have answered := start_answered io pmc.aux
  have toSim := pmcRouteToSim_route io.logged pmc eqd sim toPreclean writeOk
  generalize pmcRouteToSim io.logged pmc eqd sim m writeOk = result at toSim ⊢
  cases toSim with
  | refused text aux refused =>
      rw [isStart] at refused
      rw [show applyAuxForCommand io.logged 1 .start pmc.aux = _ from refused] at heater answered
      rw [answersError_error, pmcSend_pmc, ne_eq, heater]
      refine not_and.symm.trans (not_congr (failsLate_iff routed ?_)).symm
      intro next enabled pinged
      refine .inl (Bool.eq_false_iff.mpr fun yes => ?_)
      cases (answered next enabled pinged).mpr yes
  | unsent aux accepted unsent =>
      rw [isStart] at accepted
      rw [show applyAuxForCommand io.logged 1 .start pmc.aux = _ from accepted] at heater
      rw [answersError_error, pmcSend_pmc, ne_eq, heater]
      refine not_and.symm.trans (not_congr (failsLate_iff routed ?_)).symm
      intro next _ _
      exact .inr unsent
  | sent aux wrote accepted sent =>
      rw [isStart] at accepted
      rw [show applyAuxForCommand io.logged 1 .start pmc.aux = _ from accepted] at answered
      refine iff_of_true ?_ ?_
      · -- What was written is the START itself.
        rintro ⟨out, _, isError, same⟩
        rw [pmcIoSendMessage_some sent] at same
        have text := List.append_cancel_right (congrArg Prod.snd (Option.some.inj same))
        cases (isStart.symm.trans (lineText_head_injective text).2).trans isError
      · rintro ⟨_, enabled, other, otherRouted, next, pinged, _, fails⟩
        rw [routed.unique otherRouted] at sent
        rw [← pmcIoSendMessage_none, sent, (answered next enabled pinged).mp rfl] at fails
        simp at fails

end Requests

/-! ## A controller with one sim -/

/-- The connection of equipmentd. -/
def eqdPeer : PmcConnection := ⟨0, 4, .eqd, true, -1, .empty 31, false⟩

/-- The connection of a sim that was last seen idle. -/
def idleSim (devId : Int32) : PmcConnection :=
  ⟨1, 5, .sim, true, devId, strncpy 31 (ascii "IDLE"), true⟩

/-- A START of equipmentd. -/
def startRequest (dev : UInt32) : Message ℚ :=
  { role := .req, type := .start, dev := some dev, seq := some 7 }

/-- A port on which no device can be opened. -/
def absentPort : SerialPort Unit where
  openPath _ world := (none, world)
  configure _ _ world := (false, world)
  close _ world := world
  write _ _ world := (false, world)
  read _ _ world := (.failed, world)
  burst _ := 0

/-- An aux session that was lost. -/
def lostCfg : AuxCfg := { plantCfg with dev := ⟨⟨0, false⟩, false⟩, sessionReady := false }

/-- A START of module 1 that the sim does not get has one outcome, an error. -/
theorem eqd_message_one_outcome_start :
    let pmc : Pmc AuxDevice := ⟨[idleSim 1, eqdPeer], plantCfg, ⟨false, []⟩⟩
    (auxDevicePort.Returns fun port =>
        pmcRouteMessage port ⟨pmc.conns, pmc.aux.cfg, pmc.aux.port, []⟩ eqdPeer (startRequest 1)
          fun fd => decide (fd ≠ 5)) ∧
      EqdOutcome pmc.conns eqdPeer (startRequest 1)
        (pmcRouteMessage auxDevicePort pmc eqdPeer (startRequest 1) fun fd =>
          decide (fd ≠ 5)).wrote :=
  eqd_message_one_outcome auxDevicePort auxDevicePort_bounded _ eqdPeer (startRequest 1)
    (fun fd => decide (fd ≠ 5)) rfl rfl (by decide) (by decide)

/-- While the session is ready, module 2 is spared. -/
theorem aux_ignored_ready :
    AuxIgnored (δ := ℚ) auxDevicePort ⟨plantCfg, ⟨false, []⟩, []⟩ 2 .start ↔
      plantCfg.enabled = false ∨ plantCfg.sessionReady = true :=
  aux_ignored_iff auxDevicePort _ 2 .start (by decide)

/-- With the device of module 1 gone, a START of module 2 is refused. -/
theorem aux_blocks_deposition :
    ¬ AuxIgnored (δ := ℚ) absentPort ⟨lostCfg, (), []⟩ 2 .start ∧
      (pmcRouteMessage absentPort.logged ⟨[idleSim 2, eqdPeer], lostCfg, (), []⟩ eqdPeer
        (startRequest 2) fun _ => true).wrote =
          some (4, ascii "RESP ERROR dev=2 seq=7 ok=0 code=502 msg=AUX_SESSION_NOT_READY\n") := by
  refine ⟨fun ignored => ?_, by decide +kernel⟩
  have refused := congrArg (fun applied => applied.1.isOk) ignored.unused
  exact absurd refused (by decide)

/-- The law for a START that the device obeys and the sim gets. -/
theorem failed_start_obeyed :
    let pmc : Pmc (AuxDevice × List SerialOp) := ⟨[idleSim 1, eqdPeer], plantCfg, ⟨false, []⟩, []⟩
    let result := pmcRouteMessage auxDevicePort.logged pmc eqdPeer (startRequest 1) fun _ => true
    (AnswersError ℚ eqdPeer result.wrote → lastHeater result.pmc.aux.port.2 ≠ some true) ↔
      ¬ FailsLate auxDevicePort pmc eqdPeer (startRequest 1) fun _ => true :=
  failed_start_iff auxDevicePort _ plantCfg ⟨false, []⟩ eqdPeer (startRequest 1) _ rfl rfl rfl rfl

/-- A START that the device obeys and the sim does not get leaves the heater on. -/
theorem failed_start_heater_on :
    let result := pmcRouteMessage auxDevicePort.logged
      ⟨[idleSim 1, eqdPeer], plantCfg, ⟨false, []⟩, []⟩ eqdPeer (startRequest 1)
        fun fd => decide (fd ≠ 5)
    AnswersError ℚ eqdPeer result.wrote ∧ lastHeater result.pmc.aux.port.2 = some true := by
  intro result
  have wrote : result.wrote =
      some (4, lineText (pmcErrorMessage (startRequest 1) 500 (ascii "SIM_CMD_FAILED")) ++ [10]) := by
    decide +kernel
  exact ⟨⟨_, rfl, rfl, wrote⟩, by decide +kernel⟩

end EquipmentControl
