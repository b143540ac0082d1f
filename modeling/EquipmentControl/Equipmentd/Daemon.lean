import EquipmentControl.Equipmentd.Connections
import EquipmentControl.Equipmentd.Serving
import EquipmentControl.Library.Machine

/-!
# The daemon

Everything that happens to equipmentd between two waits, one piece at a time
(`handle_accept_event`, `handle_client_event` and the loop of `main` in
`services/equipmentd/src/main.c`, `scan_connection_timeout` in
`services/equipmentd/src/connection_table.c`). The pieces of `handle_client_event` are a read that
delivers bytes, a read that ends the connection, and one line popped and served.

The machine takes the pieces in any order, so its runs include those of the program. Descriptors,
bytes, clock readings and the outcomes of writes are inputs.
-/

set_option autoImplicit false

namespace EquipmentControl

open InputMachine

/-- The state of the process. -/
structure Daemon (δ : Type) where
  ctx : AppCtx δ
  conns : Connections
  connTable : List ℕ

/-- The pieces of the daemon's work. -/
inductive DaemonInput where
  /-- `accept` returned a descriptor; `setUp` says whether `set_nonblocking`, `malloc` and
  `epoll_ctl` succeed on it. -/
  | accept (fd nowMs : ℤ) (setUp : Bool)
  /-- `read` delivered bytes. -/
  | feed (id : ℕ) (data : Bytes) (nowMs : ℤ)
  /-- One round of the loop that pops lines. -/
  | pop (id : ℕ) (nowMs : ℤ) (writeOk : Bool)
  /-- `read` returned 0, or failed other than for want of data. -/
  | hangUp (id : ℕ)
  | runScheduler (healthMs createdMs : ℤ) (writeOk : Bool)
  | sweepRequests (nowMs : ℤ)
  | scanConnections (nowMs : ℤ)

/-- The size of the buffer `line` that `main` passes down. -/
def lineSize : ℕ := 512

/-- `CONN_IDLE_TIMEOUT_MS`. -/
def connIdleTimeoutMs : ℤ := 60000

/-- A connection the idle scan closes. -/
def isIdle (nowMs : ℤ) (conn : Connection) : Bool :=
  decide (nowMs - conn.lastActiveMs > connIdleTimeoutMs)

section Daemon

variable {δ : Type}

/-- `close_connection`. -/
def closeConnection (d : Daemon δ) (id : ℕ) : Daemon δ :=
  { d with conns := d.conns.close id, connTable := unregisterConnection d.connTable id }

/-- One round of `handle_accept_event`. The operating system hands out no descriptor that is
open. -/
def acceptConnection (d : Daemon δ) (fd nowMs : ℤ) (setUp : Bool) : Daemon δ :=
  if fd < 0 ∨ setUp = false then d
  else if closed : fd ∉ d.conns.list.map Connection.fd then
    { d with
      conns := d.conns.add fd nowMs closed
      connTable := registerConnection d.connTable d.conns.nextId }
  else d

/-- Bytes of a read enter the session; an overflow closes the connection, and only that. -/
def feedConnection (d : Daemon δ) (id : ℕ) (data : Bytes) (nowMs : ℤ) : Daemon δ :=
  match d.conns.find id with
  | none => d
  | some conn =>
      match sessionFeed conn.session data with
      | none => closeConnection d conn.id
      | some session => { d with conns := d.conns.update conn.id session nowMs }

/-- The end of a connection drops its controller links. -/
def hangUpConnection (d : Daemon δ) (id : ℕ) : Daemon δ :=
  match d.conns.find id with
  | none => d
  | some conn => closeConnection { d with ctx := dropLinks d.ctx conn.fd } conn.id

/-- The loop of `scan_connection_timeout` at index `i`. Every round passes an entry or removes
one, so there are as many rounds as entries. -/
def scanFrom (nowMs : ℤ) : ℕ → ℕ → Daemon δ → Daemon δ
  | 0, _, d => d
  | rounds + 1, i, d =>
      match d.connTable[i]? with
      | none => d
      | some id =>
          match d.conns.find id with
          | none => scanFrom nowMs rounds (i + 1) d
          | some conn =>
              if isIdle nowMs conn then scanFrom nowMs rounds i (closeConnection d id)
              else scanFrom nowMs rounds (i + 1) d

/-- `scan_connection_timeout`. -/
def scanConnectionTimeout (d : Daemon δ) (nowMs : ℤ) : Daemon δ :=
  scanFrom nowMs d.connTable.length 0 d

/-- An open connection whose next line is popped as `line`, leaving the session `rest`. -/
structure Pops (d : Daemon δ) (id : ℕ) (conn : Connection) (line : Bytes) (rest : Session) :
    Prop where
  member : conn ∈ d.conns.list
  id_eq : conn.id = id
  popped : sessionPopLine conn.session lineSize = .line line rest

/-- The line the next pop on a connection takes. -/
def poppedLine (d : Daemon δ) (id : ℕ) : Option Bytes :=
  match d.conns.find id with
  | none => none
  | some conn =>
      match sessionPopLine conn.session lineSize with
      | .line out _ => some out
      | _ => none

theorem Pops.poppedLine_eq {d : Daemon δ} {id : ℕ} {conn : Connection} {line : Bytes}
    {rest : Session} (pops : Pops d id conn line rest) : poppedLine d id = some line := by
  have found := Connections.find_eq_some.mpr ⟨pops.member, pops.id_eq⟩
  simp only [poppedLine, found, pops.popped]

variable [CDouble δ]

/-- The state in which `main` enters its loop. -/
def daemonInit : Daemon δ where
  ctx :=
    { moduleRegistry := moduleRegistryInit, pmcFd := -1, tmcFd := -1
      tracker := requestTrackerInit, nextSeq := 1000, jobState := .idle }
  conns := .empty
  connTable := []

/-- The state after a line of a connection was served, as long as the connection stays open. -/
def afterServing (d : Daemon δ) (conn : Connection) (line : Bytes) (rest : Session) (nowMs : ℤ)
    (writeOk : Bool) : Daemon δ :=
  { d with
    ctx := (serveLine conn.fd d.ctx line nowMs writeOk).ctx
    conns := d.conns.update conn.id rest conn.lastActiveMs }

/-- A line is popped and served, and its connection closed when the line is given up. -/
def popConnection (d : Daemon δ) (id : ℕ) (nowMs : ℤ) (writeOk : Bool) :
    Daemon δ × Option (ℤ × Bytes) :=
  match d.conns.find id with
  | none => (d, none)
  | some conn =>
      match sessionPopLine conn.session lineSize with
      | .noLine | .tooLong => (d, none)
      | .line out rest =>
          let served := serveLine conn.fd d.ctx out nowMs writeOk
          let next := afterServing d conn out rest nowMs writeOk
          (if served.isOpen then next else closeConnection next conn.id, served.wrote)

/-- The daemon. Its outputs are the descriptors and lines it writes. -/
def daemonMachine : Machine (Daemon δ) DaemonInput (Option (ℤ × Bytes)) where
  step d
    | .accept fd nowMs setUp => (acceptConnection d fd nowMs setUp, none)
    | .feed id data nowMs => (feedConnection d id data nowMs, none)
    | .pop id nowMs writeOk => popConnection d id nowMs writeOk
    | .hangUp id => (hangUpConnection d id, none)
    | .runScheduler healthMs createdMs writeOk =>
        let turn := runScheduler d.ctx healthMs createdMs writeOk
        ({ d with ctx := turn.1 }, turn.2)
    | .sweepRequests nowMs =>
        ({ d with ctx :=
          { d.ctx with tracker := requestTrackerSweepTimeouts d.ctx.tracker nowMs } }, none)
    | .scanConnections nowMs => (scanConnectionTimeout d nowMs, none)

/-! ## What a piece can do -/

omit [CDouble δ] in
/-- An accept leaves everything alone, or opens a connection on a descriptor that was not open. -/
theorem acceptConnection_cases (d : Daemon δ) (fd nowMs : ℤ) (setUp : Bool) :
    acceptConnection d fd nowMs setUp = d ∨ ∃ closed, acceptConnection d fd nowMs setUp =
      { d with
        conns := d.conns.add fd nowMs closed
        connTable := registerConnection d.connTable d.conns.nextId } := by
  rw [acceptConnection]
  split
  · exact .inl rfl
  split
  · rename_i closed
    exact .inr ⟨closed, rfl⟩
  · exact .inl rfl

omit [CDouble δ] in
/-- A read on an open connection overflows its session and closes it, or only updates it. -/
theorem feedConnection_cases (d : Daemon δ) (id : ℕ) (data : Bytes) (nowMs : ℤ) :
    feedConnection d id data nowMs = d ∨ ∃ conn ∈ d.conns.list, conn.id = id ∧
      (4096 < (conn.session.buf ++ data).length ∧
          feedConnection d id data nowMs = closeConnection d conn.id ∨
        ∃ session, feedConnection d id data nowMs =
          { d with conns := d.conns.update conn.id session nowMs }) := by
  rw [feedConnection]
  split
  · exact .inl rfl
  rename_i conn found
  obtain ⟨member, same⟩ := Connections.find_eq_some.mp found
  refine .inr ⟨conn, member, same, ?_⟩
  rw [sessionFeed]
  split
  · rename_i overflow
    split at overflow
    · cases overflow
    · rename_i long
      exact .inl ⟨not_le.mp long, rfl⟩
  · rename_i session _
    exact .inr ⟨session, rfl⟩

omit [CDouble δ] in
/-- The end of an open connection drops its links and closes it. -/
theorem hangUpConnection_cases (d : Daemon δ) (id : ℕ) :
    hangUpConnection d id = d ∨ ∃ conn ∈ d.conns.list, conn.id = id ∧ hangUpConnection d id =
      closeConnection { d with ctx := dropLinks d.ctx conn.fd } conn.id := by
  rw [hangUpConnection]
  split
  · exact .inl rfl
  · rename_i conn found
    obtain ⟨member, same⟩ := Connections.find_eq_some.mp found
    exact .inr ⟨conn, member, same, rfl⟩

omit [CDouble δ] in
/-- A line that is popped belongs to an open connection. -/
theorem poppedLine_eq_some {d : Daemon δ} {id : ℕ} {line : Bytes}
    (popped : poppedLine d id = some line) : ∃ conn rest, Pops d id conn line rest := by
  rw [poppedLine] at popped
  split at popped
  · cases popped
  rename_i conn found
  obtain ⟨member, same⟩ := Connections.find_eq_some.mp found
  split at popped
  · rename_i out rest pops
    cases popped
    exact ⟨conn, rest, member, same, pops⟩
  · cases popped

/-- A pop without a line does nothing. -/
theorem popConnection_of_none {d : Daemon δ} {id : ℕ} (nothing : poppedLine d id = none)
    (nowMs : ℤ) (writeOk : Bool) : popConnection d id nowMs writeOk = (d, none) := by
  rw [poppedLine] at nothing
  rw [popConnection]
  cases found : d.conns.find id with
  | none => rfl
  | some conn =>
      simp only [found] at nothing ⊢
      cases popped : sessionPopLine conn.session lineSize with
      | line out rest =>
          rw [popped] at nothing
          cases nothing
      | _ => rfl

/-- A pop serves its line, and closes the connection if the line is given up. -/
theorem Pops.popConnection_eq {d : Daemon δ} {id : ℕ} {conn : Connection} {line : Bytes}
    {rest : Session} (pops : Pops d id conn line rest) (nowMs : ℤ) (writeOk : Bool) :
    popConnection d id nowMs writeOk =
      (if givesUp conn.fd d.ctx line writeOk then
        closeConnection (afterServing d conn line rest nowMs writeOk) conn.id
      else afterServing d conn line rest nowMs writeOk,
      (serveLine conn.fd d.ctx line nowMs writeOk).wrote) := by
  have found := Connections.find_eq_some.mpr ⟨pops.member, pops.id_eq⟩
  simp only [popConnection, found, pops.popped, serveLine_isOpen]
  cases givesUp conn.fd d.ctx line writeOk <;> rfl

/-- A pop writes what serving its line writes. -/
theorem Pops.wrote {d : Daemon δ} {id : ℕ} {conn : Connection} {line : Bytes} {rest : Session}
    (pops : Pops d id conn line rest) {nowMs : ℤ} {writeOk : Bool} :
    (popConnection d id nowMs writeOk).2 = (serveLine conn.fd d.ctx line nowMs writeOk).wrote := by
  rw [pops.popConnection_eq]

/-- A pop leaves the context that serving its line leaves. -/
theorem Pops.ctx {d : Daemon δ} {id : ℕ} {conn : Connection} {line : Bytes} {rest : Session}
    (pops : Pops d id conn line rest) (nowMs : ℤ) (writeOk : Bool) :
    (popConnection d id nowMs writeOk).1.ctx = (serveLine conn.fd d.ctx line nowMs writeOk).ctx := by
  rw [pops.popConnection_eq]
  dsimp only
  split <;> rfl

/-- A pop leaves everything alone, or serves a line and closes the connection if it is given
up. -/
theorem popConnection_cases (d : Daemon δ) (id : ℕ) (nowMs : ℤ) (writeOk : Bool) :
    popConnection d id nowMs writeOk = (d, none) ∨
      ∃ conn line rest, Pops d id conn line rest ∧
        popConnection d id nowMs writeOk =
          (if givesUp conn.fd d.ctx line writeOk then
            closeConnection (afterServing d conn line rest nowMs writeOk) conn.id
          else afterServing d conn line rest nowMs writeOk,
          (serveLine conn.fd d.ctx line nowMs writeOk).wrote) := by
  cases popped : poppedLine d id with
  | none => exact .inl (popConnection_of_none popped nowMs writeOk)
  | some line =>
      obtain ⟨conn, rest, pops⟩ := poppedLine_eq_some popped
      exact .inr ⟨conn, line, rest, pops, pops.popConnection_eq nowMs writeOk⟩

omit [CDouble δ] in
/-- What closing an idle connection of the table preserves, the idle scan preserves. -/
theorem scanConnectionTimeout_preserves {I : Daemon δ → Prop} (nowMs : ℤ)
    (closes : ∀ d conn, I d → conn ∈ d.conns.list → conn.id ∈ d.connTable →
      isIdle nowMs conn = true → I (closeConnection d conn.id))
    {d : Daemon δ} (holds : I d) : I (scanConnectionTimeout d nowMs) := by
  rw [scanConnectionTimeout]
  generalize d.connTable.length = rounds
  generalize 0 = i
  induction rounds generalizing i d with
  | zero => exact holds
  | succ rounds ih =>
      rw [scanFrom]
      split
      · exact holds
      rename_i id entry
      split
      · exact ih holds (i + 1)
      rename_i conn found
      obtain ⟨member, rfl⟩ := Connections.find_eq_some.mp found
      split
      · rename_i idle
        exact ih (closes d conn holds member (List.mem_of_getElem? entry) idle) i
      · exact ih holds (i + 1)

/-- A piece of work that neither serves a line, nor runs the scheduler, nor sweeps the tracker. -/
def Untouched (d : Daemon δ) : DaemonInput → Prop
  | .pop id _ _ => poppedLine d id = none
  | .runScheduler .. | .sweepRequests _ => False
  | _ => True

/-- What a piece of work does to the context, with what it writes. -/
inductive WorkStep (d : Daemon δ) : DaemonInput → AppCtx δ → Option (ℤ × Bytes) → Prop where
  | kept (input : DaemonInput) : Untouched d input → WorkStep d input d.ctx none
  | dropped (id : ℕ) (fd : ℤ) : WorkStep d (.hangUp id) (dropLinks d.ctx fd) none
  | served (id : ℕ) (nowMs : ℤ) (writeOk : Bool) (conn : Connection) (line : Bytes)
      (rest : Session) : Pops d id conn line rest → WorkStep d (.pop id nowMs writeOk)
        (serveLine conn.fd d.ctx line nowMs writeOk).ctx
        (serveLine conn.fd d.ctx line nowMs writeOk).wrote
  | scheduled (healthMs createdMs : ℤ) (writeOk : Bool) :
      WorkStep d (.runScheduler healthMs createdMs writeOk)
        (runScheduler d.ctx healthMs createdMs writeOk).1
        (runScheduler d.ctx healthMs createdMs writeOk).2
  | swept (nowMs : ℤ) : WorkStep d (.sweepRequests nowMs)
      { d.ctx with tracker := requestTrackerSweepTimeouts d.ctx.tracker nowMs } none

/-- **What a piece of work does to the context.** -/
theorem daemonMachine_work (d : Daemon δ) (input : DaemonInput) :
    WorkStep d input (daemonMachine.step d input).1.ctx (daemonMachine.step d input).2 := by
  cases input with
  | accept fd nowMs setUp =>
      have same : (acceptConnection d fd nowMs setUp).ctx = d.ctx := by
        rcases acceptConnection_cases d fd nowMs setUp with same | ⟨_, same⟩ <;> rw [same]
      exact same ▸ WorkStep.kept (d := d) (.accept fd nowMs setUp) trivial
  | feed id data nowMs =>
      have same : (feedConnection d id data nowMs).ctx = d.ctx := by
        rcases feedConnection_cases d id data nowMs with same | ⟨_, _, _, ⟨_, same⟩ | ⟨_, same⟩⟩
        all_goals rw [same]
        rfl
      exact same ▸ WorkStep.kept (d := d) (.feed id data nowMs) trivial
  | pop id nowMs writeOk =>
      change WorkStep d _ (popConnection d id nowMs writeOk).1.ctx
        (popConnection d id nowMs writeOk).2
      cases popped : poppedLine d id with
      | none =>
          rw [popConnection_of_none popped]
          exact .kept _ popped
      | some line =>
          obtain ⟨conn, rest, pops⟩ := poppedLine_eq_some popped
          rw [pops.ctx, pops.wrote]
          exact .served id nowMs writeOk conn line rest pops
  | hangUp id =>
      change WorkStep d _ (hangUpConnection d id).ctx none
      rcases hangUpConnection_cases d id with same | ⟨conn, _, _, same⟩ <;> rw [same]
      · exact .kept _ trivial
      · exact .dropped id conn.fd
  | runScheduler healthMs createdMs writeOk => exact .scheduled healthMs createdMs writeOk
  | sweepRequests nowMs => exact .swept nowMs
  | scanConnections nowMs =>
      have same : (scanConnectionTimeout d nowMs).ctx = d.ctx :=
        scanConnectionTimeout_preserves (I := fun next => next.ctx = d.ctx) nowMs
          (fun _ _ same _ _ _ => same) rfl
      exact same ▸ WorkStep.kept (d := d) (.scanConnections nowMs) trivial

end Daemon

end EquipmentControl
