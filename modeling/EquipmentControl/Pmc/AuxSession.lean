import EquipmentControl.Library.Machine
import EquipmentControl.Pmc.AuxDevice

/-!
# The aux session and its descriptor

The calls that open, use and close the aux session (`nodes/pmc/src/io_manager.c`), in any order
and over any serial port, with a log of the descriptors that are opened and closed.

Between calls three flags and a descriptor agree: a ready session has a connected device, a device
is connected exactly when its link is open, and the descriptor of the link is the only one that is
open (`AuxIntact`). What a reconnection, a command and the loss of a session keep, the calls keep
(`AuxKeeps`), and so does every run of them (`aux_session_intact`). That `open` returns no
negative descriptor is what the code relies on.
-/

set_option autoImplicit false

namespace EquipmentControl

open InputMachine

/-! ## Descriptors in a log -/

/-- The descriptors that are open after the calls of a log, the most recent call first. -/
def openDescriptors : List SerialOp → List ℤ
  | [] => []
  | .openPath _ (some fd) :: log => fd :: openDescriptors log
  | .close fd :: log => (openDescriptors log).erase fd
  | _ :: log => openDescriptors log

/-- Every close of a log closes a descriptor that is open at the time. -/
def ClosesOpen : List SerialOp → Prop
  | [] => True
  | .close fd :: log => fd ∈ openDescriptors log ∧ ClosesOpen log
  | _ :: log => ClosesOpen log

/-- The descriptors that are open, after closes of open ones only. -/
structure Holding {τ : Type} (fds : List ℤ) (world : τ × List SerialOp) : Prop where
  fds : openDescriptors world.2 = fds
  closes : ClosesOpen world.2

/-- `open` returns no negative descriptor. -/
def OpensNonneg {τ : Type} (io : SerialPort τ) : Prop :=
  ∀ path world fd, (io.openPath path world).1 = some fd → 0 ≤ fd

section Descriptors

variable {τ : Type} (io : SerialPort τ)

/-- Reading and writing opens and closes nothing. -/
theorem logged_exchanges (fds : List ℤ) : io.logged.Exchanges (Holding fds) where
  reads _ _ _ holding := ⟨holding.fds, holding.closes⟩
  write _ _ _ holding := ⟨holding.fds, holding.closes⟩

variable {io}

theorem Holding.close {fd : ℤ} {world : τ × List SerialOp} (holding : Holding [fd] world) :
    Holding [] (io.logged.close fd world) where
  fds := by
    change (openDescriptors world.2).erase fd = []
    rw [holding.fds, List.erase_cons_head]
  closes := ⟨holding.fds ▸ List.mem_singleton_self fd, holding.closes⟩

theorem Holding.opened {world : τ × List SerialOp} (holding : Holding [] world) (path : Bytes)
    (fd : Option ℤ) (next : τ) : Holding fd.toList (next, .openPath path fd :: world.2) := by
  cases fd with
  | none => exact ⟨holding.fds, holding.closes⟩
  | some fd => exact ⟨congrArg (fd :: ·) holding.fds, holding.closes⟩

/-- A device as it is between calls: it is connected exactly when its link is open, and then the
descriptor of the link is the one that is open. -/
structure DeviceHeld (dev : PicoDevice) (world : τ × List SerialOp) : Prop where
  connected : dev.connected = dev.link.isOpen
  nonneg : dev.connected = true → 0 ≤ dev.link.fd
  holding : Holding (if dev.connected then [dev.link.fd] else []) world

/-- **Opening a device** leaves it connected, or leaves nothing open. -/
theorem picoDeviceOpen_held (opens : OpensNonneg io) (path : Bytes) (baudrate : ℤ)
    {world : τ × List SerialOp} (holding : Holding [] world) :
    DeviceHeld (picoDeviceOpen io.logged path baudrate world).2.1
        (picoDeviceOpen io.logged path baudrate world).2.2 ∧
      (picoDeviceOpen io.logged path baudrate world).2.1.connected =
        (picoDeviceOpen io.logged path baudrate world).1 := by
  have released : ∀ world : τ × List SerialOp, Holding [] world →
      DeviceHeld (⟨⟨0, false⟩, false⟩ : PicoDevice) world := fun world nothing =>
    ⟨rfl, fun isConnected => absurd isConnected Bool.false_ne_true, nothing⟩
  have opened := holding.opened path (io.openPath path world.1).1 (io.openPath path world.1).2
  rw [picoDeviceOpen, serialLinkOpen, show io.logged.openPath path world =
    ((io.openPath path world.1).1, (io.openPath path world.1).2,
      SerialOp.openPath path (io.openPath path world.1).1 :: world.2) from rfl]
  cases result : (io.openPath path world.1).1 with
  | none =>
      rw [result] at opened
      exact ⟨released _ opened, rfl⟩
  | some fd =>
  rw [result] at opened
  generalize SerialOp.openPath path (some fd) :: world.2 = log at opened ⊢
  generalize (io.openPath path world.1).2 = next at opened ⊢
  simp only [show io.logged.configure fd (baudToSpeed baudrate) (next, log) =
    ((io.configure fd (baudToSpeed baudrate) next).1,
      (io.configure fd (baudToSpeed baudrate) next).2, log) from rfl]
  have configured : Holding [fd] ((io.configure fd (baudToSpeed baudrate) next).2, log) :=
    ⟨opened.fds, opened.closes⟩
  cases (io.configure fd (baudToSpeed baudrate) next).1 with
  | false => exact ⟨released _ configured.close, rfl⟩
  | true => exact ⟨⟨rfl, fun _ => opens path world.1 fd result, configured⟩, rfl⟩

/-- **Closing a device that is held** leaves nothing open. -/
theorem DeviceHeld.close {dev : PicoDevice} {world : τ × List SerialOp}
    (held : DeviceHeld dev world) :
    Holding [] (if dev.connected then (picoDeviceClose io.logged dev world).2 else world) := by
  obtain ⟨connected, nonneg, holding⟩ := held
  cases isConnected : dev.connected with
  | false => rwa [isConnected] at holding
  | true =>
      rw [isConnected] at connected holding
      simp only [if_true, picoDeviceClose, serialLinkClose, ← connected, Bool.true_and,
        decide_eq_true (nonneg isConnected)]
      exact holding.close

end Descriptors

/-! ## What the calls keep -/

section Calls

variable {τ : Type} {io : SerialPort τ}

/-- What a reconnection, a command on the device and the loss of the session keep. -/
structure AuxKeeps (io : SerialPort τ) (P : Aux τ → Prop) : Prop where
  reconnect : ∀ aux, P aux → P (pmcAuxReconnect io aux).2
  exchange : ∀ aux cmd replySz, P aux →
    P { aux with port := (picoSendAndWait io aux.cfg.dev cmd replySz aux.port).2 }
  unready : ∀ aux, P aux → P { aux with cfg := { aux.cfg with sessionReady := false } }

namespace AuxKeeps

variable {P : Aux τ → Prop} (keeps : AuxKeeps io P) {aux : Aux τ}
include keeps

/-- A command with a retry. -/
theorem auxWithRetry (cmd : Bytes) (replySz : ℕ) (holds : P aux) :
    P (auxWithRetry io (fun dev port => picoSendAndWait io dev cmd replySz port) aux).2 := by
  have first := keeps.exchange aux cmd replySz holds
  rw [EquipmentControl.auxWithRetry]
  split
  · rename_i result
    rwa [result] at first
  rename_i port result
  rw [result] at first
  have repaired := keeps.reconnect _ first
  split
  · rename_i failed
    rwa [failed] at repaired
  rename_i next ready
  rw [ready] at repaired
  have second := keeps.exchange next cmd replySz repaired
  split
  · rename_i again
    rwa [again] at second
  · rename_i again
    rw [again] at second
    exact keeps.unready _ second

theorem switchHeater (on : Bool) (expect failed bad : String) (holds : P aux) :
    P (switchHeater io on expect failed bad aux).2 := by
  have set := keeps.auxWithRetry (heaterLine on) 128 holds
  change P (pmcAuxSetHeaterWithRetry io on 128 aux).2 at set
  rw [EquipmentControl.switchHeater]
  split
  · rename_i result
    rwa [result] at set
  · rename_i result
    rw [result] at set
    split <;> exact set

theorem applyAuxSwitch (type : MsgType) (holds : P aux) : P (applyAuxSwitch io type aux).2 := by
  cases type with
  | start =>
      have pinged := keeps.auxWithRetry (ascii "PING") 128 holds
      change P (pmcAuxPingWithRetry io 128 aux).2 at pinged
      simp only [EquipmentControl.applyAuxSwitch]
      split
      · rename_i result
        rwa [result] at pinged
      rename_i result
      rw [result] at pinged
      split
      · exact keeps.switchHeater true _ _ _ pinged
      · exact pinged
  | stop | reset | fault => exact keeps.switchHeater false _ _ _ holds
  | _ => exact holds

/-- The session is ready, or repaired. -/
theorem ready (holds : P aux) :
    P (if aux.cfg.sessionReady then (true, aux) else pmcAuxReconnect io aux).2 := by
  split
  · exact holds
  · exact keeps.reconnect aux holds

theorem applyAuxForCommand (devId : Int32) (type : MsgType) (holds : P aux) :
    P (applyAuxForCommand io devId type aux).2 := by
  have repaired := keeps.ready holds
  rw [EquipmentControl.applyAuxForCommand]
  split
  · exact holds
  split
  · rename_i result
    rwa [result] at repaired
  · rename_i result
    rw [result] at repaired
    split
    · exact repaired
    · exact keeps.applyAuxSwitch type repaired

theorem readAuxSnapshot {δ : Type} [CDouble δ] (devId : Int32) (holds : P aux) :
    P (readAuxSnapshot (δ := δ) io devId aux).2 := by
  have repaired := keeps.ready holds
  rw [EquipmentControl.readAuxSnapshot]
  split
  · exact holds
  split
  · rename_i result
    rwa [result] at repaired
  · rename_i next result
    rw [result] at repaired
    have heaterRead := keeps.auxWithRetry (ascii "READ HEATER") 64 repaired
    exact keeps.auxWithRetry (ascii "READ TEMP") 64 heaterRead

end AuxKeeps

/-! ## The session between calls -/

/-- The session between calls: its device is held, and it is ready only over a connected device. -/
structure AuxIntact (aux : Aux (τ × List SerialOp)) : Prop where
  held : DeviceHeld aux.cfg.dev aux.port
  ready : aux.cfg.sessionReady = true → aux.cfg.dev.connected = true

/-- Draining the lines of a device that is held keeps it held. -/
theorem AuxIntact.drain {cfg : AuxCfg} {port : τ × List SerialOp} (held : DeviceHeld cfg.dev port)
    (isConnected : cfg.dev.connected = true) :
    AuxIntact (pmcAuxDrainBootLines io.logged ⟨cfg, port⟩) := by
  rw [pmcAuxDrainBootLines]
  split
  · exact ⟨held, fun _ => isConnected⟩
  · exact ⟨⟨held.connected, held.nonneg,
      (logged_exchanges io _).reads.drainLoop cfg.dev.link 4 held.holding⟩, fun _ => isConnected⟩

/-- A session whose device could not be opened. -/
theorem AuxIntact.refused (opens : OpensNonneg io) {cfg : AuxCfg} {path : Bytes} {baudrate : ℤ}
    {before port : τ × List SerialOp} (holding : Holding [] before)
    (result : picoDeviceOpen io.logged path baudrate before = (false, cfg.dev, port))
    (unready : cfg.sessionReady = false) : AuxIntact ⟨cfg, port⟩ := by
  obtain ⟨held, _⟩ := picoDeviceOpen_held opens path baudrate holding
  rw [result] at held
  refine ⟨held, fun isReady => ?_⟩
  cases unready.symm.trans isReady

/-- A session over a device that was opened. -/
theorem AuxIntact.opened (opens : OpensNonneg io) {cfg : AuxCfg} {path : Bytes} {baudrate : ℤ}
    {before port : τ × List SerialOp} (holding : Holding [] before)
    (result : picoDeviceOpen io.logged path baudrate before = (true, cfg.dev, port)) :
    AuxIntact (pmcAuxDrainBootLines io.logged ⟨cfg, port⟩) := by
  obtain ⟨held, connected⟩ := picoDeviceOpen_held opens path baudrate holding
  rw [result] at held connected
  exact .drain held connected

theorem AuxIntact.clear {aux : Aux (τ × List SerialOp)} (intact : AuxIntact aux) :
    AuxIntact (pmcIoUartAuxClear io.logged aux) where
  held := ⟨rfl, fun isConnected => absurd isConnected Bool.false_ne_true, intact.held.close⟩
  ready isReady := absurd isReady Bool.false_ne_true

theorem AuxIntact.configure (opens : OpensNonneg io) {aux : Aux (τ × List SerialOp)}
    (intact : AuxIntact aux) (serialPath : Bytes) (baudrate : ℤ) :
    AuxIntact (pmcIoUartAuxConfigure io.logged serialPath baudrate aux).2 := by
  rw [pmcIoUartAuxConfigure]
  split
  · exact intact
  simp only
  split
  · rename_i result
    exact AuxIntact.refused opens intact.held.close result rfl
  · rename_i result
    dsimp only
    exact AuxIntact.opened opens intact.held.close result

/-- **A reconnection, a command and the loss of the session keep it intact.** -/
theorem auxIntact_keeps (opens : OpensNonneg io) : AuxKeeps io.logged (AuxIntact (τ := τ)) where
  reconnect aux intact := by
    rw [pmcAuxReconnect]
    split
    · exact intact
    simp only
    split
    · rename_i result
      exact AuxIntact.refused opens intact.held.close result rfl
    · rename_i result
      dsimp only
      exact AuxIntact.opened opens intact.held.close result
  exchange aux cmd replySz intact :=
    ⟨⟨intact.held.connected, intact.held.nonneg,
      (logged_exchanges io _).picoSendAndWait aux.cfg.dev cmd replySz intact.held.holding⟩,
      intact.ready⟩
  unready aux intact := ⟨intact.held, fun isReady => absurd isReady Bool.false_ne_true⟩

end Calls

/-! ## Runs -/

/-- The calls on the aux session. -/
inductive AuxCall where
  | configure (serialPath : Bytes) (baudrate : ℤ)
  | clear
  | shutdown
  | applyForCommand (devId : Int32) (type : MsgType)
  | readSnapshot (devId : Int32)

/-- `g_uart_aux_cfg` as the program starts. -/
def auxCfgInit : AuxCfg where
  enabled := false
  serialPath := .empty 127
  baudrate := 0
  dev := ⟨⟨0, false⟩, false⟩
  sessionReady := false

section Runs

variable (δ : Type) [CDouble δ] {τ : Type} (io : SerialPort τ)

/-- The session under its calls, over a port. -/
def auxMachine : Machine (Aux τ) AuxCall Unit where
  step aux
    | .configure serialPath baudrate => ((pmcIoUartAuxConfigure io serialPath baudrate aux).2, ())
    | .clear => (pmcIoUartAuxClear io aux, ())
    | .shutdown => (pmcIoUartAuxShutdown io aux, ())
    | .applyForCommand devId type => ((applyAuxForCommand io devId type aux).2, ())
    | .readSnapshot devId => ((readAuxSnapshot (δ := δ) io devId aux).2, ())

/-- What holds of the aux session between calls. -/
structure SessionIntegrity (aux : Aux (τ × List SerialOp)) : Prop where
  ready : aux.cfg.sessionReady = true → aux.cfg.dev.connected = true
  connected : aux.cfg.dev.connected = true ↔ aux.cfg.dev.link.isOpen = true
  descriptors : openDescriptors aux.port.2 =
    if aux.cfg.dev.link.isOpen then [aux.cfg.dev.link.fd] else []
  closes : ClosesOpen aux.port.2

variable {io}

theorem AuxIntact.integrity {aux : Aux (τ × List SerialOp)} (intact : AuxIntact aux) :
    SessionIntegrity aux where
  ready := intact.ready
  connected := by rw [intact.held.connected]
  descriptors := by
    rw [← intact.held.connected]
    exact intact.held.holding.fds
  closes := intact.held.holding.closes

/-- **After every run of calls the aux session is intact**: its flags agree, the descriptor of its
link is the only one open, and no close has met a descriptor that was not open. -/
theorem aux_session_intact (opens : OpensNonneg io) (port : τ) (calls : List AuxCall) :
    SessionIntegrity ((auxMachine δ io.logged).run ⟨auxCfgInit, port, []⟩ calls) := by
  have keeps := auxIntact_keeps opens
  refine AuxIntact.integrity
    (Machine.invariant (I := AuxIntact) (fun aux call intact => ?_) ?_ calls)
  · cases call with
    | configure serialPath baudrate => exact intact.configure opens serialPath baudrate
    | clear => exact intact.clear
    | shutdown => exact intact.clear
    | applyForCommand devId type => exact keeps.applyAuxForCommand devId type intact
    | readSnapshot devId => exact keeps.readAuxSnapshot devId intact
  · exact ⟨⟨rfl, fun isConnected => absurd isConnected Bool.false_ne_true, rfl, trivial⟩,
      fun isReady => absurd isReady Bool.false_ne_true⟩

end Runs

/-- A session that is configured, used, configured again and shut down, over the obedient device. -/
theorem aux_session_intact_reopened :
    SessionIntegrity ((auxMachine ℚ auxDevicePort.logged).run ⟨auxCfgInit, ⟨false, []⟩, []⟩
      [.configure (ascii "/dev/ttyACM0") 115200, .applyForCommand 1 .start, .readSnapshot 1,
        .configure (ascii "/dev/ttyACM1") 9600, .shutdown]) := by
  have opens : OpensNonneg auxDevicePort := by
    rintro path world fd ⟨⟩
    decide
  exact aux_session_intact ℚ opens ⟨false, []⟩ _

end EquipmentControl
