import EquipmentControl.Pmc.Router

/-!
# Calls on the serial port that return

The model takes a port to be silent after a burst. A call of the source returns when no read of it
is cut short by that: it then comes out the same for all longer bursts, down to what it does with
the port (`SerialPort.Returns`). A line that is read from a device that sends nothing but CRs never
returns (`not_returns_of_only_crs`).

On a bounded port longer bursts make no difference to a line that is read
(`serialLinkReadLine_withBurst`), and so to nothing that the process controller does with the device:
`pmc_route_message` returns (`pmcRouteMessage_returns`).
-/

set_option autoImplicit false

namespace EquipmentControl

section Returns

variable {τ : Type}

/-- The same port with other bursts. -/
def SerialPort.withBurst (io : SerialPort τ) (burst : τ → ℕ) : SerialPort τ :=
  { io with burst := burst }

/-- A call returns: whatever longer bursts the port may have, its result is the same, and so are
the calls it makes on the port. -/
def SerialPort.Returns {α : Type} (io : SerialPort τ)
    (call : SerialPort (τ × List SerialOp) → α) : Prop :=
  ∀ burst : τ → ℕ, (∀ world, io.burst world ≤ burst world) →
    call (io.withBurst burst).logged = call io.logged

theorem withBurst_logged (io : SerialPort τ) (burst : τ → ℕ) :
    (io.withBurst burst).logged = io.logged.withBurst fun world => burst world.1 := rfl

theorem SerialPort.Bounded.logged {io : SerialPort τ} (bounded : io.Bounded) :
    io.logged.Bounded where
  read_byte isByte := bounded.read_byte isByte

/-- Every read is logged. -/
theorem logged_reads (io : SerialPort τ) (fd : ℤ) (timeoutMs n : ℕ)
    (world : τ × List SerialOp) :
    ((fun world => (io.logged.read fd timeoutMs world).2)^[n] world).2.length =
      n + world.2.length := by
  induction n generalizing world with
  | zero => exact (Nat.zero_add _).symm
  | succ n ih =>
      rw [Function.iterate_succ_apply, ih]
      change n + (world.2.length + 1) = _
      omega

/-- From a device that sends nothing but CRs a whole burst is read, and one round more. -/
theorem serialLinkReadLine_only_crs (io : SerialPort τ) {link : SerialLink} {timeoutMs : ℕ}
    (onlyCrs : ∀ world, (io.read link.fd timeoutMs world).1 = .byte 13)
    (isOpen : link.isOpen = true) {outSz : ℕ} (hasRoom : 2 ≤ outSz) (world : τ) :
    (serialLinkReadLine io.logged link outSz timeoutMs (world, [])).2.2.length =
      io.burst world + 1 := by
  have crs : ∀ world, (io.logged.read link.fd timeoutMs world).1 = .byte 13 :=
    fun world => onlyCrs world.1
  have room : ([] : Bytes).length + 1 < outSz := hasRoom
  rw [serialLinkReadLine, isOpen, decide_eq_false (by omega), if_neg (by decide),
    readLineLoop_only_crs crs room, logged_reads]
  rfl

/-- **A line is never read to its end from a device that sends nothing but CRs.** -/
theorem not_returns_of_only_crs {io : SerialPort τ} {link : SerialLink} {timeoutMs : ℕ}
    (onlyCrs : ∀ world, (io.read link.fd timeoutMs world).1 = .byte 13)
    (isOpen : link.isOpen = true) {outSz : ℕ} (hasRoom : 2 ≤ outSz) (world : τ) :
    ¬ io.Returns fun port => serialLinkReadLine port link outSz timeoutMs (world, []) := by
  intro returns
  let burst := fun world => io.burst world + 1
  have reads := congrArg (fun result => result.2.2.length)
    (returns burst fun world => Nat.le_succ _)
  have fewer := serialLinkReadLine_only_crs io onlyCrs isOpen hasRoom world
  have more := serialLinkReadLine_only_crs (io.withBurst burst) onlyCrs isOpen hasRoom world
  exact absurd (more.symm.trans (reads.trans fewer)) (Nat.succ_ne_self _)

end Returns

/-! ## A bounded port -/

section Bounded

variable {τ : Type} {io : SerialPort τ} (bounded : io.Bounded)

include bounded

/-- A bounded port is read to the end of the line in more rounds than its burst has bytes. -/
theorem readLineLoop_rounds (fd : ℤ) (outSz timeoutMs : ℕ) {rounds more : ℕ} (used : Bytes)
    {world : τ} (enough : io.burst world < rounds) (larger : rounds ≤ more) :
    readLineLoop io fd outSz timeoutMs more used world =
      readLineLoop io fd outSz timeoutMs rounds used world := by
  induction rounds generalizing more used world with
  | zero => cases enough
  | succ rounds ih =>
      obtain ⟨more, rfl⟩ : ∃ rest, more = rest + 1 := ⟨more - 1, by omega⟩
      rw [readLineLoop, readLineLoop]
      cases result : io.read fd timeoutMs world with
      | mk read next =>
      cases read with
      | failed => rfl
      | nothing => rfl
      | byte ch =>
          have fewer := bounded.read_byte (congrArg Prod.fst result)
          rw [result] at fewer
          have left : io.burst next < rounds :=
            Nat.lt_of_lt_of_le fewer (Nat.le_of_lt_succ enough)
          have still : rounds ≤ more := Nat.le_of_succ_le_succ larger
          simp only [ih used left still, ih (used ++ [ch]) left still]

variable {burst : τ → ℕ}

omit bounded in
theorem readLineLoop_withBurst : readLineLoop (io.withBurst burst) = readLineLoop io := by
  funext fd outSz timeoutMs rounds used world
  induction rounds generalizing used world with
  | zero => rfl
  | succ rounds ih =>
      simp only [readLineLoop, ih]
      rfl

variable (longer : ∀ world, io.burst world ≤ burst world)

include longer

/-- **Longer bursts make no difference to a line that is read.** -/
theorem serialLinkReadLine_withBurst :
    serialLinkReadLine (io.withBurst burst) = serialLinkReadLine io := by
  funext link outSz timeoutMs world
  rw [serialLinkReadLine, serialLinkReadLine]
  split
  · rfl
  · rw [readLineLoop_withBurst]
    exact readLineLoop_rounds bounded link.fd outSz timeoutMs [] (Nat.lt_succ_self _)
      (Nat.succ_le_succ (longer world))

theorem picoWait_withBurst : picoWait (io.withBurst burst) = picoWait io := by
  funext link replySz tries world
  induction tries generalizing world with
  | zero => rfl
  | succ tries ih =>
      simp only [picoWait, serialLinkReadLine_withBurst bounded longer, ih]

theorem picoSendAndWait_withBurst :
    picoSendAndWait (io.withBurst burst) = picoSendAndWait io := by
  funext dev cmd replySz world
  simp only [picoSendAndWait, picoWait_withBurst bounded longer]
  rfl

theorem drainLoop_withBurst : drainLoop (io.withBurst burst) = drainLoop io := by
  funext link lines port
  induction lines generalizing port with
  | zero => rfl
  | succ lines ih =>
      simp only [drainLoop, serialLinkReadLine_withBurst bounded longer, ih]

theorem pmcAuxReconnect_withBurst :
    pmcAuxReconnect (io.withBurst burst) = pmcAuxReconnect io := by
  funext aux
  simp only [pmcAuxReconnect, pmcAuxDrainBootLines, drainLoop_withBurst bounded longer]
  rfl

theorem auxWithRetry_withBurst : auxWithRetry (io.withBurst burst) = auxWithRetry io := by
  funext send aux
  simp only [auxWithRetry, pmcAuxReconnect_withBurst bounded longer]

theorem applyAuxForCommand_withBurst :
    applyAuxForCommand (io.withBurst burst) = applyAuxForCommand io := by
  funext devId type aux
  simp only [applyAuxForCommand, applyAuxSwitch, switchHeater, pmcAuxPingWithRetry, picoDevicePing,
    pmcAuxSetHeaterWithRetry, picoDeviceSetHeater, pmcAuxReconnect_withBurst bounded longer,
    auxWithRetry_withBurst bounded longer, picoSendAndWait_withBurst bounded longer]

variable {δ : Type} [CDouble δ]

theorem readAuxSnapshot_withBurst :
    readAuxSnapshot (δ := δ) (io.withBurst burst) = readAuxSnapshot io := by
  funext devId aux
  simp only [readAuxSnapshot, pmcAuxReadHeaterWithRetry, picoDeviceReadHeater,
    pmcAuxReadTempWithRetry, picoDeviceReadTemp, pmcAuxReconnect_withBurst bounded longer,
    auxWithRetry_withBurst bounded longer, picoSendAndWait_withBurst bounded longer]
  rfl

theorem pmcRouteMessage_withBurst :
    pmcRouteMessage (δ := δ) (io.withBurst burst) = pmcRouteMessage io := by
  funext pmc sender m writeOk
  simp only [pmcRouteMessage, pmcRouteEqd, pmcRouteToSim,
    applyAuxForCommand_withBurst bounded longer, readAuxSnapshot_withBurst bounded longer]

omit longer

/-- **Routing a message returns** when the port is bounded. -/
theorem pmcRouteMessage_returns (pmc : Pmc τ) (sender : PmcConnection) (m : Message δ)
    (writeOk : ℤ → Bool) :
    io.Returns fun port =>
      pmcRouteMessage port ⟨pmc.conns, pmc.aux.cfg, pmc.aux.port, []⟩ sender m writeOk := by
  intro burst longer
  have same := pmcRouteMessage_withBurst (δ := δ) bounded.logged fun world => longer world.1
  simp only [withBurst_logged, same]

end Bounded

end EquipmentControl
