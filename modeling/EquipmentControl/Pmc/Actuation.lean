import EquipmentControl.Pmc.EqdRequests

/-!
# Which messages of equipmentd actuate

A message of equipmentd may switch the heater of the aux device and may be forwarded to a sim. The
sims and the transfer controller act on requests only; neither the decision on a message, nor the
interlock, nor the aux device looks at its role, so a RESP that is relayed back looks like a
command.

A message is harmless for a list of connections when none of its fields but the role keeps it from
acting (`Harmless`). It never actuates anything, whatever the aux device does and whichever writes
succeed, exactly when it is harmless (`never_actuates_iff`). So only requests actuate exactly as far
as every other message is harmless (`only_requests_actuate_iff`).
-/

set_option autoImplicit false

namespace EquipmentControl

/-- No heater command is the last one exactly when none was written. -/
theorem lastHeater_eq_none {log : List SerialOp} :
    lastHeater log = none ↔ ∀ op ∈ log, heaterCommand op = none := by
  rw [lastHeater, List.head?_eq_none_iff, List.filterMap_eq_nil_iff]

section Actuation

variable {δ : Type} [CDouble δ]

/-- The message writes no heater command to the aux device and sends nothing to a sim, whatever the
aux session, the port behind it and the outcomes of the writes. -/
def NeverActuates (conns : List PmcConnection) (eqd : PmcConnection) (m : Message δ) : Prop :=
  ∀ (τ : Type) (io : SerialPort τ) (cfg : AuxCfg) (port : τ) (writeOk : ℤ → Bool),
    let result := pmcRouteMessage io.logged ⟨conns, cfg, port, []⟩ eqd m writeOk
    (∀ op ∈ result.pmc.aux.port.2, heaterCommand op = none) ∧
      ∀ wrote ∈ result.wrote, ∀ sim ∈ conns, sim.type = .sim → wrote.1 ≠ sim.fd

/-- A REGISTER, a STATUS, or a message for which there is no sim that the interlock lets it pass to;
or one that is routed, but is too long to be sent and goes with no heater command. -/
def Harmless (conns : List PmcConnection) (m : Message δ) : Prop :=
  m.type = .register ∨ m.type = .status ∨ (∀ sim, ¬ Routed conns m sim) ∨
    510 < (lineText m).length ∧ (m.dev ≠ some 1 ∨ heaterFor m.type = none)

omit [CDouble δ] in
theorem pmcFindSim_type {conns : List PmcConnection} {devId : Int32} {sim : PmcConnection}
    (found : pmcFindSim conns devId = some sim) : sim.type = .sim := by
  have meets := List.find?_some found
  simp only [Bool.and_eq_true, decide_eq_true_eq] at meets
  exact meets.1.2

/-- With the aux device off, a message that is routed and fits is sent to its sim. -/
theorem pmcRouteEqd_sent {τ : Type} (io : SerialPort τ) {pmc : Pmc τ} (eqd : PmcConnection)
    {sim : PmcConnection} {m : Message δ} (off : pmc.aux.cfg.enabled = false)
    (routed : Routed pmc.conns m sim) (notStatus : m.type ≠ .status)
    (fits : (lineText m).length ≤ 510) :
    (pmcRouteEqd io pmc eqd m fun _ => true).wrote = some (sim.fd, lineText m ++ [10]) := by
  have route := pmcRouteEqd_route io pmc eqd m fun _ => true
  generalize pmcRouteEqd io pmc eqd m (fun _ => true) = result at route ⊢
  cases route with
  | rejected code text noSim => exact absurd routed (noSim sim)
  | status dev other isStatus => exact absurd isStatus notStatus
  | toSim other otherRouted =>
  cases routed.unique otherRouted
  obtain ⟨⟨dev, hasDev, _⟩, _⟩ := routed
  have toSim := pmcRouteToSim_route io pmc eqd sim hasDev fun _ => true
  generalize pmcRouteToSim io pmc eqd sim m (fun _ => true) = result at toSim ⊢
  cases toSim with
  | refused text aux refused =>
      rw [applyAuxForCommand_off io dev.toInt32 m.type off] at refused
      cases refused
  | unsent aux _ unsent =>
      rcases pmcIoSendMessage_none.mp unsent with long | failed
      · omega
      · cases failed
  | sent aux wrote _ sent => exact congrArg some (pmcIoSendMessage_some sent)

/-- The aux device obeys a heater command of module 1. -/
theorem applyAuxForCommand_obeyed {type : MsgType} (command : (heaterFor type).isSome) :
    (applyAuxForCommand auxDevicePort.logged 1 type ⟨plantCfg, ⟨false, []⟩, []⟩).1 = .ok () := by
  cases type with
  | start | stop | reset | fault => rfl
  | _ => cases command

/-- A command of another module leaves the heater alone. -/
theorem applyAuxForCommand_heater_other {τ : Type} (io : SerialPort τ) {devId : Int32}
    (other : devId ≠ 1) (type : MsgType) (aux : Aux (τ × List SerialOp)) :
    lastHeater (applyAuxForCommand io.logged devId type aux).2.port.2 = lastHeater aux.port.2 := by
  have reconnected :=
    (logged_silent io (· = lastHeater aux.port.2)).pmcAuxReconnect aux rfl
  rw [applyAuxForCommand]
  split
  · rfl
  by_cases ready : aux.cfg.sessionReady = true
  · simp only [ready, if_true]
  simp only [ready, Bool.false_eq_true, if_false]
  split
  · rename_i result
    rwa [result] at reconnected
  · rename_i result
    rwa [result] at reconnected

/-- A message that cannot be sent to its sim is answered with an error, and its aux device has seen
a heater command only if it goes with its type and module. -/
theorem pmcRouteToSim_long {τ : Type} (io : SerialPort τ) (pmc : Pmc (τ × List SerialOp))
    (eqd sim : PmcConnection) {m : Message δ} {dev : UInt32} (hasDev : m.dev = some dev)
    (writeOk : ℤ → Bool) (long : 510 < (lineText m).length)
    (noCommand : dev.toInt32 ≠ 1 ∨ heaterFor m.type = none) :
    lastHeater (pmcRouteToSim io.logged pmc eqd sim m writeOk).pmc.aux.port.2 =
        lastHeater pmc.aux.port.2 ∧
      ∀ wrote ∈ (pmcRouteToSim io.logged pmc eqd sim m writeOk).wrote, wrote.1 = eqd.fd := by
  have kept : lastHeater (applyAuxForCommand io.logged dev.toInt32 m.type pmc.aux).2.port.2 =
      lastHeater pmc.aux.port.2 := by
    rcases noCommand with other | none
    · exact applyAuxForCommand_heater_other io other m.type pmc.aux
    · refine (applyAuxForCommand_heater io dev.toInt32 m.type pmc.aux).1.heater.resolve_right ?_
      rw [none]
      exact fun command => absurd command.1 Bool.false_ne_true
  have toSim := pmcRouteToSim_route io.logged pmc eqd sim hasDev writeOk
  generalize pmcRouteToSim io.logged pmc eqd sim m writeOk = result at toSim ⊢
  cases toSim with
  | refused text aux refused =>
      rw [refused] at kept
      rw [pmcSend_pmc]
      exact ⟨kept, pmcSend_fd⟩
  | unsent aux accepted =>
      rw [accepted] at kept
      rw [pmcSend_pmc]
      exact ⟨kept, pmcSend_fd⟩
  | sent aux wrote _ sent =>
      have failed : pmcIoSendMessage sim.fd m writeOk = none :=
        pmcIoSendMessage_none.mpr (.inl long)
      cases failed.symm.trans sent

/-- What a harmless message of equipmentd does: the last heater command stays, and what is written
is an answer. -/
theorem pmcRouteEqd_harmless {τ : Type} (io : SerialPort τ) (pmc : Pmc (τ × List SerialOp))
    (eqd : PmcConnection) {m : Message δ} (writeOk : ℤ → Bool)
    (harmless : Harmless pmc.conns m) (notRegister : m.type ≠ .register) :
    lastHeater (pmcRouteEqd io.logged pmc eqd m writeOk).pmc.aux.port.2 =
        lastHeater pmc.aux.port.2 ∧
      ∀ wrote ∈ (pmcRouteEqd io.logged pmc eqd m writeOk).wrote, wrote.1 = eqd.fd := by
  have route := pmcRouteEqd_route io.logged pmc eqd m writeOk
  generalize pmcRouteEqd io.logged pmc eqd m writeOk = result at route ⊢
  cases route with
  | rejected code text =>
      rw [pmcSend_pmc]
      exact ⟨rfl, pmcSend_fd⟩
  | status dev sim isStatus =>
      have read := readAuxSnapshot_heater (δ := δ) io .status sim.devId pmc.aux
      rw [pmcSend_pmc]
      refine ⟨read.heater.resolve_right ?_, pmcSend_fd⟩
      exact fun command => absurd command.1 Bool.false_ne_true
  | toSim sim routed notStatus =>
      rcases harmless with isRegister | isStatus | unrouted | ⟨long, noCommand⟩
      · exact absurd isRegister notRegister
      · exact absurd isStatus notStatus
      · exact absurd routed (unrouted sim)
      obtain ⟨⟨dev, hasDev, _⟩, _⟩ := routed
      refine pmcRouteToSim_long io pmc eqd sim hasDev writeOk long (noCommand.imp_left ?_)
      intro other isPreclean
      refine other ?_
      rw [hasDev, ← UInt32.toUInt32_toInt32 dev, isPreclean]
      rfl

/-- **A message of equipmentd never actuates anything exactly when it is harmless.** -/
theorem never_actuates_iff (conns : List PmcConnection) (eqd : PmcConnection) (m : Message δ)
    (registered : eqd.registered = true) (isEqd : eqd.type = .eqd)
    (apart : ∀ sim ∈ conns, sim.type = .sim → sim.fd ≠ eqd.fd) :
    NeverActuates conns eqd m ↔ Harmless conns m := by
  constructor
  · intro never
    by_contra harmful
    simp only [Harmless, not_or, not_forall, not_not, not_and] at harmful
    obtain ⟨notRegister, notStatus, ⟨sim, routed⟩, acts⟩ := harmful
    obtain ⟨dev, hasDev, found⟩ := routed.1
    obtain ⟨member, devId⟩ := pmcFindSim_devId found
    by_cases long : 510 < (lineText m).length
    · obtain ⟨isPreclean, command⟩ := acts long
      have isSome : (heaterFor m.type).isSome := Option.isSome_iff_ne_none.mpr command
      have toPreclean : sim.devId = 1 := by
        rw [devId, Option.some.inj (hasDev.symm.trans isPreclean)]
        rfl
      obtain ⟨silent, _⟩ := never AuxDevice auxDevicePort plantCfg ⟨false, []⟩ fun _ => true
      rw [← lastHeater_eq_none,
        pmcRouteMessage_eqd auxDevicePort.logged _ registered isEqd notRegister,
        pmcRouteEqd_heater auxDevicePort eqd _ rfl routed toPreclean isSome
          (applyAuxForCommand_obeyed isSome)] at silent
      exact command silent
    · obtain ⟨_, quiet⟩ := never Unit absentPort { plantCfg with enabled := false } () fun _ => true
      rw [pmcRouteMessage_eqd absentPort.logged _ registered isEqd notRegister,
        pmcRouteEqd_sent absentPort.logged eqd rfl routed notStatus (by omega)] at quiet
      exact quiet _ rfl sim member (pmcFindSim_type found) rfl
  · intro harmless τ io cfg port writeOk
    simp only
    rw [← lastHeater_eq_none]
    by_cases isRegister : m.type = .register
    · rw [pmcRouteMessage, if_pos isRegister]
      exact ⟨rfl, fun _ wrote => absurd wrote (by simp)⟩
    rw [pmcRouteMessage_eqd io.logged _ registered isEqd isRegister]
    obtain ⟨kept, answers⟩ := pmcRouteEqd_harmless io ⟨conns, cfg, port, []⟩ eqd writeOk harmless
      isRegister
    refine ⟨kept, fun wrote written sim member isSim same => apart sim member isSim ?_⟩
    rw [← same, answers wrote written]

/-- **Only requests actuate exactly as far as every other message is harmless.** -/
theorem only_requests_actuate_iff (conns : List PmcConnection) (eqd : PmcConnection)
    (m : Message δ) (registered : eqd.registered = true) (isEqd : eqd.type = .eqd)
    (apart : ∀ sim ∈ conns, sim.type = .sim → sim.fd ≠ eqd.fd) :
    (m.role ≠ .req → NeverActuates conns eqd m) ↔ m.role = .req ∨ Harmless conns m := by
  rw [never_actuates_iff conns eqd m registered isEqd apart]
  exact or_iff_not_imp_left.symm

end Actuation

/-- The answer of a sim to a START, relayed back to the process controller. -/
def startResponse : Message ℚ :=
  { role := .resp, type := .start, dev := some 1, seq := some 7, ok := some 1 }

/-- For that answer and an idle sim the theorem decides. -/
theorem only_requests_actuate_start :
    (startResponse.role ≠ .req → NeverActuates [idleSim 1, eqdPeer] eqdPeer startResponse) ↔
      startResponse.role = .req ∨ Harmless [idleSim 1, eqdPeer] startResponse :=
  only_requests_actuate_iff [idleSim 1, eqdPeer] eqdPeer startResponse rfl rfl (by decide)

/-- It switches the heater on and is forwarded to the sim. -/
theorem response_actuates :
    startResponse.role ≠ .req ∧ ¬ NeverActuates [idleSim 1, eqdPeer] eqdPeer startResponse := by
  refine ⟨by decide, fun never => ?_⟩
  obtain ⟨silent, _⟩ := never AuxDevice auxDevicePort plantCfg ⟨false, []⟩ fun _ => true
  rw [← lastHeater_eq_none] at silent
  exact absurd silent (by decide +kernel)

end EquipmentControl
