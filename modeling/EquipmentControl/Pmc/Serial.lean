import EquipmentControl.Protocol.Message

/-!
# The serial link to the aux device

`serial_transport.c` and `pico_device.c` of `nodes/pmc/src`. The operating system and the device
behind the port are a `SerialPort`: any state, and what each call does to it.

Reading a line ends when a newline has come, the buffer is full or no byte comes in time. A device
that sends CRs without end keeps it going forever (`readLineLoop_only_crs`). So a port says how long
its bursts are, and is taken to be silent after one. It is `Bounded` when its reads never come to
that: only finitely many bytes are sent between two writes.

`SerialPort.logged` is the same port with a log of the calls. The last heater command that was
written is read off the log (`lastHeater`), and the lemmas say which function can change it.
-/

set_option autoImplicit false

namespace EquipmentControl

/-- What `select` and `read` on a port deliver: a byte, nothing in time or the end of the file, or
a failure. An interrupted call is repeated. -/
inductive SerialRead where
  | byte (ch : UInt8)
  | nothing
  | failed

/-- Serial ports with states `τ`. `configure` stands for `tcgetattr`, `tcsetattr` and
`tcflush`; a write that succeeds takes all of its bytes. The port is taken to be silent after
`burst` bytes of a line. -/
structure SerialPort (τ : Type) where
  openPath : Bytes → τ → Option ℤ × τ
  configure : ℤ → ℤ → τ → Bool × τ
  close : ℤ → τ → τ
  write : ℤ → Bytes → τ → Bool × τ
  read : ℤ → ℕ → τ → SerialRead × τ
  burst : τ → ℕ

/-- Only finitely many bytes come between two writes, `burst` at most. -/
structure SerialPort.Bounded {τ : Type} (io : SerialPort τ) : Prop where
  read_byte : ∀ {fd : ℤ} {timeoutMs : ℕ} {world : τ} {ch : UInt8},
    (io.read fd timeoutMs world).1 = .byte ch →
      io.burst (io.read fd timeoutMs world).2 < io.burst world

/-- `serial_link_t`. -/
structure SerialLink where
  fd : ℤ
  isOpen : Bool
deriving DecidableEq

/-- `pico_device_t`. -/
structure PicoDevice where
  link : SerialLink
  connected : Bool
deriving DecidableEq

/-- What `serial_link_read_line` returns: -1, 0, or 1 with the text read. -/
inductive SerialLine where
  | failed
  | nothing
  | line (text : Bytes)

/-- `baud_to_speed`, the speeds written as their rates. -/
def baudToSpeed (baudrate : ℤ) : ℤ :=
  if baudrate ∈ [9600, 19200, 38400, 57600] then baudrate else 115200

section Link

variable {τ : Type} (io : SerialPort τ)

/-- `serial_link_open`. -/
def serialLinkOpen (path : Bytes) (baudrate : ℤ) (world : τ) : Option SerialLink × τ :=
  match io.openPath path world with
  | (none, world) => (none, world)
  | (some fd, world) =>
      match io.configure fd (baudToSpeed baudrate) world with
      | (false, world) => (none, io.close fd world)
      | (true, world) => (some ⟨fd, true⟩, world)

/-- `serial_link_close`. -/
def serialLinkClose (link : SerialLink) (world : τ) : SerialLink × τ :=
  (⟨-1, false⟩, if link.isOpen && decide (0 ≤ link.fd) then io.close link.fd world else world)

/-- `serial_link_write_line`. -/
def serialLinkWriteLine (link : SerialLink) (line : Bytes) (world : τ) : Bool × τ :=
  if !link.isOpen then (false, world)
  else if 256 ≤ line.length + 1 then (false, world)
  else io.write link.fd (line ++ [10]) world

/-- The loop of `serial_link_read_line`, for so many rounds; the port is silent after them. -/
def readLineLoop (fd : ℤ) (outSz timeoutMs : ℕ) : ℕ → Bytes → τ → SerialLine × τ
  | 0, _, world => (.nothing, world)
  | rounds + 1, used, world =>
      if outSz ≤ used.length + 1 then (.line used, world)
      else
        match io.read fd timeoutMs world with
        | (.failed, world) => (.failed, world)
        | (.nothing, world) => (.nothing, world)
        | (.byte ch, world) =>
            if ch = 13 then readLineLoop fd outSz timeoutMs rounds used world
            else if ch = 10 then (.line used, world)
            else readLineLoop fd outSz timeoutMs rounds (used ++ [ch]) world

/-- `serial_link_read_line`. -/
def serialLinkReadLine (link : SerialLink) (outSz timeoutMs : ℕ) (world : τ) : SerialLine × τ :=
  if !link.isOpen || decide (outSz = 0) then (.failed, world)
  else readLineLoop io link.fd outSz timeoutMs (io.burst world + 1) [] world

/-! ## The device -/

/-- `pico_device_open`; a failure leaves a zeroed device. -/
def picoDeviceOpen (path : Bytes) (baudrate : ℤ) (world : τ) : Bool × PicoDevice × τ :=
  match serialLinkOpen io path baudrate world with
  | (none, world) => (false, ⟨⟨0, false⟩, false⟩, world)
  | (some link, world) => (true, ⟨link, true⟩, world)

/-- `pico_device_close`. -/
def picoDeviceClose (dev : PicoDevice) (world : τ) : PicoDevice × τ :=
  (⟨(serialLinkClose io dev.link world).1, false⟩, (serialLinkClose io dev.link world).2)

/-- The loop of `pico_send_and_wait`: read until a line is not empty. -/
def picoWait (link : SerialLink) (replySz : ℕ) : ℕ → τ → Option Bytes × τ
  | 0, world => (none, world)
  | tries + 1, world =>
      match serialLinkReadLine io link replySz 500 world with
      | (.line text, world) =>
          if cString text = [] then picoWait link replySz tries world
          else (some (cString text), world)
      | (_, world) => (none, world)

/-- `pico_send_and_wait`: the reply, or `none` for the result -1. -/
def picoSendAndWait (dev : PicoDevice) (cmd : Bytes) (replySz : ℕ) (world : τ) :
    Option Bytes × τ :=
  if !dev.connected || decide (replySz = 0) then (none, world)
  else
    match serialLinkWriteLine io dev.link cmd world with
    | (false, world) => (none, world)
    | (true, world) => picoWait io dev.link replySz 5 world

def picoDevicePing (dev : PicoDevice) (replySz : ℕ) (world : τ) : Option Bytes × τ :=
  picoSendAndWait io dev (ascii "PING") replySz world

def picoDeviceReadTemp (dev : PicoDevice) (replySz : ℕ) (world : τ) : Option Bytes × τ :=
  picoSendAndWait io dev (ascii "READ TEMP") replySz world

def picoDeviceReadHeater (dev : PicoDevice) (replySz : ℕ) (world : τ) : Option Bytes × τ :=
  picoSendAndWait io dev (ascii "READ HEATER") replySz world

/-- The line that switches the heater. -/
def heaterLine (on : Bool) : Bytes :=
  if on then ascii "SET HEATER ON" else ascii "SET HEATER OFF"

def picoDeviceSetHeater (dev : PicoDevice) (on : Bool) (replySz : ℕ) (world : τ) :
    Option Bytes × τ :=
  picoSendAndWait io dev (heaterLine on) replySz world

end Link

/-! ## Rules -/

section Rules

variable {τ : Type} {io : SerialPort τ}

/-- Every read preserves a property of the world. -/
def SerialPort.Reads (io : SerialPort τ) (I : τ → Prop) : Prop :=
  ∀ fd timeoutMs world, I world → I (io.read fd timeoutMs world).2

/-- Every read and every write preserves a property of the world. -/
structure SerialPort.Exchanges (io : SerialPort τ) (I : τ → Prop) : Prop where
  reads : io.Reads I
  write : ∀ fd data world, I world → I (io.write fd data world).2

/-- Every call but a write preserves a property of the world. -/
structure SerialPort.Silent (io : SerialPort τ) (I : τ → Prop) : Prop where
  openPath : ∀ path world, I world → I (io.openPath path world).2
  configure : ∀ fd speed world, I world → I (io.configure fd speed world).2
  close : ∀ fd world, I world → I (io.close fd world)
  read : ∀ fd timeoutMs world, I world → I (io.read fd timeoutMs world).2

/-- Sending `cmd` keeps `I`, and establishes `Q` when the write succeeds. -/
structure SerialPort.Sends (io : SerialPort τ) (cmd : Bytes) (I Q : τ → Prop) : Prop where
  before : io.Silent I
  after : io.Silent Q
  weaken : ∀ world, Q world → I world
  failed : ∀ fd world, I world → (io.write fd (cmd ++ [10]) world).1 = false →
    I (io.write fd (cmd ++ [10]) world).2
  sent : ∀ fd world, I world → (io.write fd (cmd ++ [10]) world).1 = true →
    Q (io.write fd (cmd ++ [10]) world).2

/-- A device that sends CRs without end is read for every number of rounds. -/
theorem readLineLoop_only_crs {fd : ℤ} {timeoutMs : ℕ}
    (onlyCrs : ∀ world, (io.read fd timeoutMs world).1 = .byte 13) {outSz : ℕ} {used : Bytes}
    (hasRoom : used.length + 1 < outSz) (rounds : ℕ) (world : τ) :
    readLineLoop io fd outSz timeoutMs rounds used world =
      (.nothing, (fun world => (io.read fd timeoutMs world).2)^[rounds] world) := by
  induction rounds generalizing world with
  | zero => rfl
  | succ rounds ih =>
      rw [readLineLoop, if_neg (by omega), ← Prod.eta (io.read fd timeoutMs world), onlyCrs world]
      exact ih (io.read fd timeoutMs world).2

namespace SerialPort.Reads

variable {I : τ → Prop} (reads : io.Reads I) {world : τ}

include reads

theorem readLineLoop (fd : ℤ) (outSz timeoutMs rounds : ℕ) (used : Bytes) (holds : I world) :
    I (readLineLoop io fd outSz timeoutMs rounds used world).2 := by
  induction rounds generalizing used world with
  | zero => exact holds
  | succ rounds ih =>
      have read := reads fd timeoutMs world holds
      rw [EquipmentControl.readLineLoop]
      split
      · exact holds
      split
      · rename_i result
        rwa [result] at read
      · rename_i result
        rwa [result] at read
      · rename_i ch next result
        rw [result] at read
        split
        · exact ih used read
        split
        · exact read
        · exact ih (used ++ [ch]) read

theorem serialLinkReadLine (link : SerialLink) (outSz timeoutMs : ℕ) (holds : I world) :
    I (serialLinkReadLine io link outSz timeoutMs world).2 := by
  rw [EquipmentControl.serialLinkReadLine]
  split
  · exact holds
  · exact reads.readLineLoop link.fd outSz timeoutMs _ [] holds

theorem picoWait (link : SerialLink) (replySz tries : ℕ) (holds : I world) :
    I (picoWait io link replySz tries world).2 := by
  induction tries generalizing world with
  | zero => exact holds
  | succ tries ih =>
      have read := reads.serialLinkReadLine link replySz 500 holds
      rw [EquipmentControl.picoWait]
      split
      · rename_i text next result
        rw [result] at read
        split
        · exact ih read
        · exact read
      · rename_i line next other result
        rwa [result] at read

end SerialPort.Reads

/-- A command and its reply keep what reads and writes preserve. -/
theorem SerialPort.Exchanges.picoSendAndWait {I : τ → Prop} (exchanges : io.Exchanges I)
    (dev : PicoDevice) (cmd : Bytes) (replySz : ℕ) {world : τ} (holds : I world) :
    I (picoSendAndWait io dev cmd replySz world).2 := by
  have wrote : I (serialLinkWriteLine io dev.link cmd world).2 := by
    rw [serialLinkWriteLine]
    split
    · exact holds
    split
    · exact holds
    · exact exchanges.write dev.link.fd (cmd ++ [10]) world holds
  rw [EquipmentControl.picoSendAndWait]
  split
  · exact holds
  split
  · rename_i result
    rwa [result] at wrote
  · rename_i result
    rw [result] at wrote
    exact exchanges.reads.picoWait dev.link replySz 5 wrote

namespace SerialPort.Silent

variable {I : τ → Prop} (silent : io.Silent I) {world : τ}

include silent

theorem reads : io.Reads I := silent.read

theorem serialLinkOpen (path : Bytes) (baudrate : ℤ) (holds : I world) :
    I (serialLinkOpen io path baudrate world).2 := by
  have opened := silent.openPath path world holds
  rw [EquipmentControl.serialLinkOpen]
  split
  · rename_i next result
    rwa [result] at opened
  · rename_i fd next result
    rw [result] at opened
    have configured := silent.configure fd (baudToSpeed baudrate) next opened
    split
    · rename_i refused
      rw [refused] at configured
      exact silent.close fd _ configured
    · rename_i accepted
      rwa [accepted] at configured

theorem serialLinkClose (link : SerialLink) (holds : I world) :
    I (serialLinkClose io link world).2 := by
  rw [EquipmentControl.serialLinkClose]
  split
  · exact silent.close link.fd world holds
  · exact holds

theorem picoDeviceOpen (path : Bytes) (baudrate : ℤ) (holds : I world) :
    I (picoDeviceOpen io path baudrate world).2.2 := by
  have opened := silent.serialLinkOpen path baudrate holds
  rw [EquipmentControl.picoDeviceOpen]
  split <;> (rename_i result; rwa [result] at opened)

theorem picoDeviceClose (dev : PicoDevice) (holds : I world) :
    I (picoDeviceClose io dev world).2 :=
  silent.serialLinkClose dev.link holds

end SerialPort.Silent

namespace SerialPort.Sends

variable {cmd : Bytes} {I Q : τ → Prop} (sends : io.Sends cmd I Q) {world : τ}

include sends

theorem serialLinkWriteLine (link : SerialLink) (holds : I world) :
    I (serialLinkWriteLine io link cmd world).2 ∧
      ((serialLinkWriteLine io link cmd world).1 = true →
        Q (serialLinkWriteLine io link cmd world).2) := by
  rw [EquipmentControl.serialLinkWriteLine]
  split
  · exact ⟨holds, fun ok => absurd ok Bool.false_ne_true⟩
  split
  · exact ⟨holds, fun ok => absurd ok Bool.false_ne_true⟩
  refine ⟨?_, sends.sent link.fd world holds⟩
  cases ok : (io.write link.fd (cmd ++ [10]) world).1 with
  | false => exact sends.failed link.fd world holds ok
  | true => exact sends.weaken _ (sends.sent link.fd world holds ok)

/-- **A command and its reply**: `I` is kept, and `Q` holds when there is a reply. -/
theorem picoSendAndWait (dev : PicoDevice) (replySz : ℕ) (holds : I world) :
    I (picoSendAndWait io dev cmd replySz world).2 ∧
      ((picoSendAndWait io dev cmd replySz world).1.isSome →
        Q (picoSendAndWait io dev cmd replySz world).2) := by
  have wrote := sends.serialLinkWriteLine dev.link holds
  rw [EquipmentControl.picoSendAndWait]
  split
  · exact ⟨holds, fun reply => absurd reply Bool.false_ne_true⟩
  split
  · rename_i next result
    rw [result] at wrote
    exact ⟨wrote.1, fun reply => absurd reply Bool.false_ne_true⟩
  · rename_i next result
    rw [result] at wrote
    have waited := sends.after.reads.picoWait dev.link replySz 5 (wrote.2 rfl)
    exact ⟨sends.weaken _ waited, fun _ => waited⟩

end SerialPort.Sends

end Rules

/-! ## The log of a port -/

/-- A call on a port, with what it took or returned. -/
inductive SerialOp where
  | openPath (path : Bytes) (fd : Option ℤ)
  | close (fd : ℤ)
  | write (fd : ℤ) (data : Bytes) (ok : Bool)
  | read (fd : ℤ)
deriving DecidableEq

/-- The port that logs its calls, the most recent first. -/
def SerialPort.logged {τ : Type} (io : SerialPort τ) : SerialPort (τ × List SerialOp) where
  openPath path world :=
    ((io.openPath path world.1).1,
      (io.openPath path world.1).2, .openPath path (io.openPath path world.1).1 :: world.2)
  configure fd speed world :=
    ((io.configure fd speed world.1).1, (io.configure fd speed world.1).2, world.2)
  close fd world := (io.close fd world.1, .close fd :: world.2)
  write fd data world :=
    ((io.write fd data world.1).1,
      (io.write fd data world.1).2, .write fd data (io.write fd data world.1).1 :: world.2)
  read fd timeoutMs world :=
    ((io.read fd timeoutMs world.1).1, (io.read fd timeoutMs world.1).2, .read fd :: world.2)
  burst world := io.burst world.1

/-- The heater command of a write that succeeded. -/
def heaterCommand : SerialOp → Option Bool
  | .write _ data true =>
      if data = heaterLine true ++ [10] then some true
      else if data = heaterLine false ++ [10] then some false
      else none
  | _ => none

/-- The last heater command that was written. -/
def lastHeater (log : List SerialOp) : Option Bool := (log.filterMap heaterCommand).head?

theorem lastHeater_cons (op : SerialOp) (log : List SerialOp) :
    lastHeater (op :: log) = (heaterCommand op).or (lastHeater log) := by
  cases command : heaterCommand op with
  | none => rw [lastHeater, List.filterMap_cons_none command]; rfl
  | some on => rw [lastHeater, List.filterMap_cons_some command]; rfl

theorem heaterCommand_heaterLine (fd : ℤ) (on : Bool) :
    heaterCommand (.write fd (heaterLine on ++ [10]) true) = some on := by
  cases on <;> rfl

/-- A write of another line is no heater command. -/
theorem heaterCommand_other {cmd : Bytes} (on : cmd ≠ heaterLine true)
    (off : cmd ≠ heaterLine false) (fd : ℤ) (ok : Bool) :
    heaterCommand (.write fd (cmd ++ [10]) ok) = none := by
  cases ok with
  | false => rfl
  | true =>
      rw [heaterCommand, if_neg fun same => on (List.append_cancel_right same),
        if_neg fun same => off (List.append_cancel_right same)]

/-! ## The last heater command -/

section Logged

variable {τ : Type} (io : SerialPort τ)

/-- No call but a write changes the last heater command. -/
theorem logged_silent (C : Option Bool → Prop) :
    io.logged.Silent fun world => C (lastHeater world.2) where
  openPath _ _ holds := by
    change C (lastHeater (_ :: _))
    rwa [lastHeater_cons]
  configure _ _ _ holds := holds
  close _ _ holds := by
    change C (lastHeater (_ :: _))
    rwa [lastHeater_cons]
  read _ _ _ holds := by
    change C (lastHeater (_ :: _))
    rwa [lastHeater_cons]

/-- Any other command leaves the last heater command alone. -/
theorem logged_sends_other {cmd : Bytes} (on : cmd ≠ heaterLine true) (off : cmd ≠ heaterLine false)
    (C : Option Bool → Prop) :
    io.logged.Sends cmd (fun world => C (lastHeater world.2))
      fun world => C (lastHeater world.2) := by
  have silent := logged_silent io C
  have kept : ∀ fd (world : τ × List SerialOp), C (lastHeater world.2) →
      C (lastHeater (io.logged.write fd (cmd ++ [10]) world).2.2) := by
    intro fd world holds
    change C (lastHeater (_ :: _))
    rw [lastHeater_cons, heaterCommand_other on off]
    exact holds
  exact ⟨silent, silent, fun _ holds => holds, fun fd world holds _ => kept fd world holds,
    fun fd world holds _ => kept fd world holds⟩

/-- A heater command that is written is the last one from then on. -/
theorem logged_sends_heater (on : Bool) {C : Option Bool → Prop} (command : C (some on)) :
    io.logged.Sends (heaterLine on) (fun world => C (lastHeater world.2))
      fun world => lastHeater world.2 = some on where
  before := logged_silent io C
  after := logged_silent io (· = some on)
  weaken world same := by
    rw [same]
    exact command
  failed fd world holds refused := by
    change C (lastHeater (.write fd _ (io.logged.write fd _ world).1 :: world.2))
    rw [refused, lastHeater_cons]
    exact holds
  sent fd world holds accepted := by
    change lastHeater (.write fd _ (io.logged.write fd _ world).1 :: world.2) = some on
    rw [accepted, lastHeater_cons, heaterCommand_heaterLine]
    rfl

end Logged

end EquipmentControl
