import EquipmentControl.Pmc.Serial
import EquipmentControl.Protocol.LineCodec

/-!
# The aux device

The aux part of `nodes/pmc/src/io_manager.c`: the session with the device, its repair, and what
a command for module 1 does to the heater before it is routed.

The four `pmc_aux_*_with_retry` functions are one definition. The texts they leave behind when
they fail are overwritten or not read by their callers, and are left out.

`applyAuxForCommand_heater` says which heater command a call can leave as the last one, and which
one it leaves when it succeeds.
-/

set_option autoImplicit false

namespace EquipmentControl

/-- `pmc_uart_aux_cfg_t`. -/
structure AuxCfg where
  enabled : Bool
  serialPath : CString 127
  baudrate : ℤ
  dev : PicoDevice
  sessionReady : Bool
deriving DecidableEq

/-- `g_uart_aux_cfg`, and the port it works on. -/
structure Aux (τ : Type) where
  cfg : AuxCfg
  port : τ

/-- `pmc_aux_snapshot_t`, without the raw replies, which nothing reads. -/
structure AuxSnapshot (δ : Type) where
  valid : Bool
  heaterKnown : Bool
  heaterOn : Bool
  tempKnown : Bool
  tempC : δ

/-- `pmc_aux_reply_is`. -/
def pmcAuxReplyIs (got expectPrefix : Bytes) : Bool := expectPrefix.isPrefixOf got

section Session

variable {τ : Type} (io : SerialPort τ)

/-- The loop of `pmc_aux_drain_boot_lines`. -/
def drainLoop (link : SerialLink) : ℕ → τ → τ
  | 0, port => port
  | lines + 1, port =>
      match serialLinkReadLine io link 128 200 port with
      | (.line _, port) => drainLoop link lines port
      | (_, port) => port

/-- `pmc_aux_drain_boot_lines`. -/
def pmcAuxDrainBootLines (aux : Aux τ) : Aux τ :=
  if !aux.cfg.sessionReady then aux
  else { aux with port := drainLoop io aux.cfg.dev.link 4 aux.port }

/-- `pmc_aux_reconnect`. -/
def pmcAuxReconnect (aux : Aux τ) : Bool × Aux τ :=
  if !aux.cfg.enabled || decide (aux.cfg.serialPath.bytes = []) then (false, aux)
  else
    let port :=
      if aux.cfg.dev.connected then (picoDeviceClose io aux.cfg.dev aux.port).2 else aux.port
    match picoDeviceOpen io aux.cfg.serialPath.bytes aux.cfg.baudrate port with
    | (false, dev, port) => (false, ⟨{ aux.cfg with dev := dev, sessionReady := false }, port⟩)
    | (true, dev, port) =>
        (true, pmcAuxDrainBootLines io ⟨{ aux.cfg with dev := dev, sessionReady := true }, port⟩)

/-- `pmc_io_uart_aux_clear`. -/
def pmcIoUartAuxClear (aux : Aux τ) : Aux τ where
  cfg :=
    { enabled := false, serialPath := .empty 127, baudrate := 0, dev := ⟨⟨-1, false⟩, false⟩
      sessionReady := false }
  port := if aux.cfg.dev.connected then (picoDeviceClose io aux.cfg.dev aux.port).2 else aux.port

/-- `pmc_io_uart_aux_configure`. The device is opened under the path as it is given, which the
configuration keeps 127 bytes of. -/
def pmcIoUartAuxConfigure (serialPath : Bytes) (baudrate : ℤ) (aux : Aux τ) : Bool × Aux τ :=
  if cString serialPath = [] then (false, aux)
  else
    let cleared := pmcIoUartAuxClear io aux
    let cfg :=
      { cleared.cfg with
        serialPath := strncpy 127 serialPath, baudrate := baudrate, enabled := true }
    match picoDeviceOpen io (cString serialPath) baudrate cleared.port with
    | (false, dev, port) => (false, ⟨{ cfg with dev := dev, sessionReady := false }, port⟩)
    | (true, dev, port) =>
        (true, pmcAuxDrainBootLines io ⟨{ cfg with dev := dev, sessionReady := true }, port⟩)

/-- `pmc_io_uart_aux_shutdown`. -/
def pmcIoUartAuxShutdown (aux : Aux τ) : Aux τ := pmcIoUartAuxClear io aux

/-- The common body of the `pmc_aux_*_with_retry` functions: a command without a reply is sent once
more over a new session. -/
def auxWithRetry (send : PicoDevice → τ → Option Bytes × τ) (aux : Aux τ) :
    Option Bytes × Aux τ :=
  match send aux.cfg.dev aux.port with
  | (some reply, port) => (some reply, { aux with port := port })
  | (none, port) =>
      match pmcAuxReconnect io { aux with port := port } with
      | (false, aux) => (none, aux)
      | (true, aux) =>
          match send aux.cfg.dev aux.port with
          | (some reply, port) => (some reply, { aux with port := port })
          | (none, port) => (none, ⟨{ aux.cfg with sessionReady := false }, port⟩)

def pmcAuxPingWithRetry (replySz : ℕ) (aux : Aux τ) : Option Bytes × Aux τ :=
  auxWithRetry io (fun dev port => picoDevicePing io dev replySz port) aux

def pmcAuxSetHeaterWithRetry (on : Bool) (replySz : ℕ) (aux : Aux τ) : Option Bytes × Aux τ :=
  auxWithRetry io (fun dev port => picoDeviceSetHeater io dev on replySz port) aux

def pmcAuxReadTempWithRetry (replySz : ℕ) (aux : Aux τ) : Option Bytes × Aux τ :=
  auxWithRetry io (fun dev port => picoDeviceReadTemp io dev replySz port) aux

def pmcAuxReadHeaterWithRetry (replySz : ℕ) (aux : Aux τ) : Option Bytes × Aux τ :=
  auxWithRetry io (fun dev port => picoDeviceReadHeater io dev replySz port) aux

/-- Set the heater and check the reply; the texts are the expected start of the reply, and those
left by a failure and by another reply. -/
def switchHeater (on : Bool) (expect failed bad : String) (aux : Aux τ) :
    Except Bytes Unit × Aux τ :=
  match pmcAuxSetHeaterWithRetry io on 128 aux with
  | (none, aux) => (.error (ascii failed), aux)
  | (some reply, aux) =>
      if pmcAuxReplyIs reply (ascii expect) then (.ok (), aux) else (.error (ascii bad), aux)

/-- The `switch` of `pmc_io_apply_aux_for_command`. -/
def applyAuxSwitch (type : MsgType) (aux : Aux τ) : Except Bytes Unit × Aux τ :=
  match type with
  | .start =>
      match pmcAuxPingWithRetry io 128 aux with
      | (none, aux) => (.error (ascii "AUX_PING_FAILED"), aux)
      | (some reply, aux) =>
          if pmcAuxReplyIs reply (ascii "OK PONG") then
            switchHeater io true "OK HEATER ON" "AUX_HEATER_ON_FAILED" "AUX_HEATER_ON_BAD_REPLY" aux
          else (.error (ascii "AUX_PING_BAD_REPLY"), aux)
  | .stop | .reset | .fault =>
      switchHeater io false "OK HEATER OFF" "AUX_HEATER_OFF_FAILED" "AUX_HEATER_OFF_BAD_REPLY" aux
  | _ => (.ok (), aux)

/-- `pmc_io_apply_aux_for_command`: success, or the text it leaves in `reply`. -/
def applyAuxForCommand (devId : Int32) (type : MsgType) (aux : Aux τ) :
    Except Bytes Unit × Aux τ :=
  if !aux.cfg.enabled then (.ok (), aux)
  else
    match (if aux.cfg.sessionReady then (true, aux) else pmcAuxReconnect io aux) with
    | (false, aux) => (.error (ascii "AUX_SESSION_NOT_READY"), aux)
    | (true, aux) => if devId ≠ 1 then (.ok (), aux) else applyAuxSwitch io type aux

variable {δ : Type} [CDouble δ]

/-- A zeroed snapshot. -/
def AuxSnapshot.zero : AuxSnapshot δ := ⟨false, false, false, false, CDouble.literal 0⟩

/-- `sscanf(temp_reply, "TEMP %f", ...)`. -/
def scanTemp (reply : Bytes) : Option δ :=
  if (ascii "TEMP").isPrefixOf reply then CDouble.scanFloat ((reply.drop 4).dropWhile isSpace)
  else none

/-- `pmc_io_read_aux_snapshot`. Its result is only printed. -/
def readAuxSnapshot (devId : Int32) (aux : Aux τ) : AuxSnapshot δ × Aux τ :=
  if devId ≠ 1 ∨ aux.cfg.enabled = false then (.zero, aux)
  else
    match (if aux.cfg.sessionReady then (true, aux) else pmcAuxReconnect io aux) with
    | (false, aux) => (.zero, aux)
    | (true, aux) =>
        let (heaterReply, aux) := pmcAuxReadHeaterWithRetry io 64 aux
        let (tempReply, aux) := pmcAuxReadTempWithRetry io 64 aux
        let heaterOn := decide (heaterReply = some (ascii "HEATER ON"))
        let heaterKnown := heaterOn || decide (heaterReply = some (ascii "HEATER OFF"))
        let temp : Option δ := tempReply.bind scanTemp
        (⟨heaterKnown || temp.isSome, heaterKnown, heaterOn, temp.isSome,
          temp.getD (CDouble.literal 0)⟩, aux)

end Session

/-! ## Rules -/

section Rules

variable {τ : Type} {io : SerialPort τ} {I Q : τ → Prop} {aux : Aux τ}

theorem SerialPort.Reads.drainLoop (reads : io.Reads I) (link : SerialLink) (lines : ℕ)
    {port : τ} (holds : I port) : I (drainLoop io link lines port) := by
  induction lines generalizing port with
  | zero => exact holds
  | succ lines ih =>
      have read := reads.serialLinkReadLine link 128 200 holds
      rw [EquipmentControl.drainLoop]
      split
      · rename_i result
        rw [result] at read
        exact ih read
      · rename_i result
        rwa [result] at read

/-- A new session keeps what no call but a write changes. -/
theorem SerialPort.Silent.pmcAuxReconnect (silent : io.Silent I) (aux : Aux τ)
    (holds : I aux.port) :
    I (pmcAuxReconnect io aux).2.port := by
  rw [EquipmentControl.pmcAuxReconnect]
  split
  · exact holds
  have closed : I (if aux.cfg.dev.connected then
      (EquipmentControl.picoDeviceClose io aux.cfg.dev aux.port).2 else aux.port) := by
    split
    · exact silent.picoDeviceClose aux.cfg.dev holds
    · exact holds
  have opened := silent.picoDeviceOpen aux.cfg.serialPath.bytes aux.cfg.baudrate closed
  simp only
  split
  · rename_i result
    rwa [result] at opened
  · rename_i dev port result
    rw [result] at opened
    exact silent.reads.drainLoop dev.link 4 opened

theorem pmcAuxReconnect_enabled (io : SerialPort τ) (aux : Aux τ) :
    (pmcAuxReconnect io aux).2.cfg.enabled = aux.cfg.enabled := by
  rw [pmcAuxReconnect]
  split
  · rfl
  simp only
  split <;> rfl

/-- **A command sent with a retry** keeps `I`, and `Q` holds when there is a reply. -/
theorem SerialPort.Silent.auxWithRetry (silent : io.Silent I)
    {send : PicoDevice → τ → Option Bytes × τ}
    (sends : ∀ dev port, I port →
      I (send dev port).2 ∧ ((send dev port).1.isSome → Q (send dev port).2))
    (holds : I aux.port) :
    I (auxWithRetry io send aux).2.port ∧
      ((auxWithRetry io send aux).1.isSome → Q (auxWithRetry io send aux).2.port) := by
  have first := sends aux.cfg.dev aux.port holds
  rw [EquipmentControl.auxWithRetry]
  split
  · rename_i result
    rw [result] at first
    exact first
  · rename_i port result
    rw [result] at first
    have reconnected := silent.pmcAuxReconnect { aux with port := port } first.1
    split
    · rename_i failed
      rw [failed] at reconnected
      exact ⟨reconnected, fun reply => absurd reply Bool.false_ne_true⟩
    · rename_i next ready
      rw [ready] at reconnected
      have second := sends next.cfg.dev next.port reconnected
      split
      · rename_i again
        rw [again] at second
        exact second
      · rename_i again
        rw [again] at second
        exact ⟨second.1, fun reply => absurd reply Bool.false_ne_true⟩

/-- A command and its reply, with a retry. -/
theorem auxWithRetry_sends {cmd : Bytes} (sends : io.Sends cmd I Q) (replySz : ℕ) (aux : Aux τ)
    (holds : I aux.port) :
    I (auxWithRetry io (fun dev port => picoSendAndWait io dev cmd replySz port) aux).2.port ∧
      ((auxWithRetry io (fun dev port => picoSendAndWait io dev cmd replySz port) aux).1.isSome →
        Q (auxWithRetry io (fun dev port => picoSendAndWait io dev cmd replySz port) aux).2.port) :=
  sends.before.auxWithRetry (Q := Q)
    (fun dev _ => sends.picoSendAndWait dev replySz) holds

theorem auxWithRetry_enabled (io : SerialPort τ) (send : PicoDevice → τ → Option Bytes × τ)
    (aux : Aux τ) : (auxWithRetry io send aux).2.cfg.enabled = aux.cfg.enabled := by
  rw [auxWithRetry]
  split
  · rfl
  · rename_i port _
    have reconnected := pmcAuxReconnect_enabled io { aux with port := port }
    split
    · rename_i failed
      rwa [failed] at reconnected
    · rename_i ready
      rw [ready] at reconnected
      split <;> exact reconnected

end Rules

/-! ## The heater -/

section Heater

variable {τ : Type} (io : SerialPort τ)

/-- The heater command that goes with a message type. -/
def heaterFor : MsgType → Option Bool
  | .start => some true
  | .stop | .reset | .fault => some false
  | _ => none

/-- Only START switches the heater on. -/
theorem heaterFor_on {type : MsgType} (on : heaterFor type = some true) : type = .start := by
  cases type <;> first | rfl | cases on

/-- What a step of the aux session does to the heater: the session stays enabled or disabled, and
the last command is the one before or the one that goes with the type. -/
structure HeaterStep (type : MsgType) (before after : Aux (τ × List SerialOp)) : Prop where
  enabled : after.cfg.enabled = before.cfg.enabled
  heater : lastHeater after.port.2 = lastHeater before.port.2 ∨
    (heaterFor type).isSome ∧ lastHeater after.port.2 = heaterFor type

theorem HeaterStep.refl (type : MsgType) (aux : Aux (τ × List SerialOp)) :
    HeaterStep type aux aux := ⟨rfl, .inl rfl⟩

theorem HeaterStep.trans {type : MsgType} {first second third : Aux (τ × List SerialOp)}
    (one : HeaterStep type first second) (two : HeaterStep type second third) :
    HeaterStep type first third where
  enabled := two.enabled.trans one.enabled
  heater := by
    rcases two.heater with same | command
    · rw [same]
      exact one.heater
    · exact .inr command

/-- A new session leaves the heater alone. -/
theorem pmcAuxReconnect_heater (type : MsgType) (aux : Aux (τ × List SerialOp)) :
    HeaterStep type aux (pmcAuxReconnect io.logged aux).2 where
  enabled := pmcAuxReconnect_enabled io.logged aux
  heater := .inl ((logged_silent io (· = lastHeater aux.port.2)).pmcAuxReconnect aux rfl)

/-- A command that does not switch the heater leaves it alone. -/
theorem auxWithRetry_heater_other (type : MsgType) (cmd : Bytes) (on : cmd ≠ heaterLine true)
    (off : cmd ≠ heaterLine false) (replySz : ℕ) (aux : Aux (τ × List SerialOp)) :
    HeaterStep type aux (auxWithRetry io.logged
      (fun dev port => picoSendAndWait io.logged dev cmd replySz port) aux).2 where
  enabled := auxWithRetry_enabled io.logged _ aux
  heater := .inl
    (auxWithRetry_sends (logged_sends_other io on off (· = lastHeater aux.port.2)) replySz aux
      rfl).1

/-- Switching the heater makes the command the last one, or fails and may do so. -/
theorem pmcAuxSetHeaterWithRetry_heater {type : MsgType} {on : Bool}
    (command : heaterFor type = some on) (replySz : ℕ) (aux : Aux (τ × List SerialOp)) :
    HeaterStep type aux (pmcAuxSetHeaterWithRetry io.logged on replySz aux).2 ∧
      ((pmcAuxSetHeaterWithRetry io.logged on replySz aux).1.isSome →
        lastHeater (pmcAuxSetHeaterWithRetry io.logged on replySz aux).2.port.2 = some on) := by
  have sends := logged_sends_heater io on
    (C := fun last => last = lastHeater aux.port.2 ∨
      (heaterFor type).isSome ∧ last = heaterFor type) (.inr ⟨by rw [command]; rfl, command.symm⟩)
  have kept := auxWithRetry_sends sends replySz aux (.inl rfl)
  exact ⟨⟨auxWithRetry_enabled io.logged _ aux, kept.1⟩, kept.2⟩

/-- **Setting the heater with a check of the reply**: success leaves the command as the last. -/
theorem switchHeater_heater (type : MsgType) {on : Bool} (command : heaterFor type = some on)
    (expect failed bad : String) (aux : Aux (τ × List SerialOp)) :
    HeaterStep type aux (switchHeater io.logged on expect failed bad aux).2 ∧
      ((switchHeater io.logged on expect failed bad aux).1 = .ok () →
        lastHeater (switchHeater io.logged on expect failed bad aux).2.port.2 = heaterFor type) := by
  have switched := pmcAuxSetHeaterWithRetry_heater io command 128 aux
  rw [switchHeater, command]
  split
  · rename_i result
    rw [result] at switched
    exact ⟨switched.1, fun ok => by cases ok⟩
  · rename_i result
    rw [result] at switched
    split
    · exact ⟨switched.1, fun _ => switched.2 rfl⟩
    · exact ⟨switched.1, fun ok => by cases ok⟩

/-- The commands of a message type of module 1. -/
theorem applyAuxSwitch_heater (type : MsgType) (aux : Aux (τ × List SerialOp)) :
    HeaterStep type aux (applyAuxSwitch io.logged type aux).2 ∧
      ((applyAuxSwitch io.logged type aux).1 = .ok () → (heaterFor type).isSome →
        lastHeater (applyAuxSwitch io.logged type aux).2.port.2 = heaterFor type) := by
  have off := fun (kind : MsgType) (command : heaterFor kind = some false) =>
    switchHeater_heater io kind command "OK HEATER OFF" "AUX_HEATER_OFF_FAILED"
      "AUX_HEATER_OFF_BAD_REPLY" aux
  cases type
  case start =>
    have pinged := auxWithRetry_heater_other io .start (ascii "PING") (by decide) (by decide)
      128 aux
    simp only [applyAuxSwitch, pmcAuxPingWithRetry, picoDevicePing]
    split
    · rename_i result
      rw [result] at pinged
      exact ⟨pinged, fun ok => by cases ok⟩
    · rename_i next result
      rw [result] at pinged
      split
      · have switched := switchHeater_heater io .start rfl "OK HEATER ON" "AUX_HEATER_ON_FAILED"
          "AUX_HEATER_ON_BAD_REPLY" next
        exact ⟨pinged.trans switched.1, fun ok _ => switched.2 ok⟩
      · exact ⟨pinged, fun ok => by cases ok⟩
  case stop => exact ⟨(off .stop rfl).1, fun ok _ => (off .stop rfl).2 ok⟩
  case reset => exact ⟨(off .reset rfl).1, fun ok _ => (off .reset rfl).2 ok⟩
  case fault => exact ⟨(off .fault rfl).1, fun ok _ => (off .fault rfl).2 ok⟩
  all_goals exact ⟨.refl _ aux, fun _ none => by cases none⟩

/-- Making sure of the session leaves the heater alone. -/
theorem sessionReady_heater (type : MsgType) (aux : Aux (τ × List SerialOp)) :
    HeaterStep type aux
      (if aux.cfg.sessionReady then (true, aux) else pmcAuxReconnect io.logged aux).2 := by
  split
  · exact .refl type aux
  · exact pmcAuxReconnect_heater io type aux

/-- **What a command for a module does to the heater.** When it succeeds for module 1, the command
that goes with its type is the last one. -/
theorem applyAuxForCommand_heater (devId : Int32) (type : MsgType)
    (aux : Aux (τ × List SerialOp)) :
    HeaterStep type aux (applyAuxForCommand io.logged devId type aux).2 ∧
      (aux.cfg.enabled = true → devId = 1 →
        (applyAuxForCommand io.logged devId type aux).1 = .ok () → (heaterFor type).isSome →
          lastHeater (applyAuxForCommand io.logged devId type aux).2.port.2 = heaterFor type) := by
  rw [applyAuxForCommand]
  split
  · rename_i disabled
    refine ⟨.refl type aux, ?_⟩
    intro enabled
    rw [enabled] at disabled
    exact absurd disabled (by decide)
  have ready := sessionReady_heater io type aux
  split
  · rename_i result
    rw [result] at ready
    exact ⟨ready, fun _ _ ok => by cases ok⟩
  · rename_i next result
    rw [result] at ready
    have switched := applyAuxSwitch_heater io type next
    split
    · rename_i other
      exact ⟨ready, fun _ same => absurd same other⟩
    · exact ⟨ready.trans switched.1, fun _ _ => switched.2⟩

/-- A snapshot leaves the heater alone. -/
theorem readAuxSnapshot_heater {δ : Type} [CDouble δ] (type : MsgType) (devId : Int32)
    (aux : Aux (τ × List SerialOp)) :
    HeaterStep type aux (readAuxSnapshot (δ := δ) io.logged devId aux).2 := by
  rw [readAuxSnapshot]
  split
  · exact .refl type aux
  have ready := sessionReady_heater io type aux
  split
  · rename_i result
    rwa [result] at ready
  · rename_i next result
    rw [result] at ready
    have heaterRead := auxWithRetry_heater_other io type (ascii "READ HEATER") (by decide)
      (by decide) 64 next
    have tempRead := auxWithRetry_heater_other io type (ascii "READ TEMP") (by decide)
      (by decide) 64 (pmcAuxReadHeaterWithRetry io.logged 64 next).2
    exact (ready.trans heaterRead).trans tempRead

end Heater

/-! ## Expected replies -/

section Replies

variable {τ : Type} {io : SerialPort τ}

/-- The start of the expected reply to a heater command. -/
def heaterReply (on : Bool) : Bytes :=
  if on then ascii "OK HEATER ON" else ascii "OK HEATER OFF"

/-- The port has just seen a heater command answered as expected. -/
def HeaterAnswered (io : SerialPort τ) (on : Bool) (port : τ) : Prop :=
  ∃ dev before reply, picoDeviceSetHeater io dev on 128 before = (some reply, port) ∧
    pmcAuxReplyIs reply (heaterReply on) = true

/-- A reply over a session that may have been repaired is the reply of the last exchange. -/
theorem auxWithRetry_reply {send : PicoDevice → τ → Option Bytes × τ} {aux after : Aux τ}
    {reply : Bytes} (replied : auxWithRetry io send aux = (some reply, after)) :
    ∃ dev before, send dev before = (some reply, after.port) := by
  rw [auxWithRetry] at replied
  split at replied
  · rename_i first
    cases replied
    exact ⟨_, _, first⟩
  split at replied
  · cases replied
  split at replied
  · rename_i second
    cases replied
    exact ⟨_, _, second⟩
  · cases replied

theorem switchHeater_reply {on : Bool} {expect failed bad : String}
    (expected : ascii expect = heaterReply on) {aux after : Aux τ}
    (switched : switchHeater io on expect failed bad aux = (.ok (), after)) :
    HeaterAnswered io on after.port := by
  rw [switchHeater] at switched
  split at switched
  · cases switched
  · rename_i reply next answered
    split at switched
    · rename_i isExpected
      cases switched
      obtain ⟨dev, before, exchange⟩ := auxWithRetry_reply answered
      exact ⟨dev, before, reply, exchange, expected ▸ isExpected⟩
    · cases switched

/-- **A command for module 1 that succeeds has its heater command answered as expected.** -/
theorem applyAuxForCommand_reply {type : MsgType} {on : Bool} (command : heaterFor type = some on)
    {aux after : Aux τ} (enabled : aux.cfg.enabled = true)
    (accepted : applyAuxForCommand io 1 type aux = (.ok (), after)) :
    HeaterAnswered io on after.port := by
  rw [applyAuxForCommand, enabled] at accepted
  simp only [Bool.not_true, Bool.false_eq_true, if_false, ne_eq, not_true_eq_false] at accepted
  split at accepted
  · cases accepted
  cases type with
  | start =>
      cases command
      rw [applyAuxSwitch] at accepted
      split at accepted
      · cases accepted
      split at accepted
      · exact switchHeater_reply rfl accepted
      · cases accepted
  | stop | reset | fault =>
      cases command
      exact switchHeater_reply rfl accepted
  | _ => cases command

end Replies

/-! ## An obedient device -/

/-- What an obedient device has done and has yet to say: its heater, and the bytes of its replies
not read yet. -/
structure AuxDevice where
  heaterOn : Bool
  replies : Bytes

/-- The device takes a line: it obeys the heater commands and answers. -/
def AuxDevice.take (device : AuxDevice) (data : Bytes) : AuxDevice :=
  if data = heaterLine true ++ [10] then ⟨true, device.replies ++ ascii "OK HEATER ON\n"⟩
  else if data = heaterLine false ++ [10] then ⟨false, device.replies ++ ascii "OK HEATER OFF\n"⟩
  else if data = ascii "PING\n" then { device with replies := device.replies ++ ascii "OK PONG\n" }
  else device

/-- The port of the obedient device. -/
def auxDevicePort : SerialPort AuxDevice where
  openPath _ device := (some 9, device)
  configure _ _ device := (true, { device with replies := [] })
  close _ device := device
  write _ data device := (true, device.take data)
  read _ _ device :=
    match device.replies with
    | [] => (.nothing, device)
    | ch :: replies => (.byte ch, { device with replies := replies })
  burst device := device.replies.length

/-- Every byte it sends is one less to send. -/
theorem auxDevicePort_bounded : auxDevicePort.Bounded where
  read_byte {fd timeoutMs device ch} isByte := by
    simp only [auxDevicePort] at isByte ⊢
    split at isByte
    · cases isByte
    · rename_i same
      simp [same]

/-- The aux device is in use, its session open. -/
def plantCfg : AuxCfg where
  enabled := true
  serialPath := strncpy 127 (ascii "/dev/ttyACM0")
  baudrate := 115200
  dev := ⟨⟨9, true⟩, true⟩
  sessionReady := true

end EquipmentControl
