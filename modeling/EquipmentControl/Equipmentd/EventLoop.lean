import EquipmentControl.Equipmentd.ConnectionMemory

/-!
# The event loop of equipmentd

The loop of `main` in `services/equipmentd/src/main.c` on the objects in memory: `epoll_wait`
reports the pointers of connections with something to read, `handle_client_event` reads, feeds the
session, pops its lines and hands them to `handle_one_line`, the listening socket accepts
connections in between, and when the events are handled the scheduler, the timeouts of requests and
the idle scan have their turn. What the system calls return is an input (`EpollInput`), within what
they promise (`Promised`).

After its lines are popped, the function looks at the `state` of a connection, also when it has
released it because a line was given up on. The loop keeps a log of its pieces of work. Each of its
steps is a run of the daemon's machine on that log, and leaves a process that holds the state
reached until a line is given up on (`daemonStep_refines`).

So the loop never uses an object that is not allocated exactly when no line that it pops is given up
on, and as long as that is so, no memory, descriptor, watch or entry of the table is left of a
connection that is gone (`daemon_loop_safe_iff`). Between its steps no line waits in a session
(`daemon_loop_leaves_no_line`).
-/

set_option autoImplicit false

namespace EquipmentControl

open InputMachine

/-! ## The loops -/

/-- The pieces of work done, with what they write. -/
abbrev DaemonLog := List (DaemonInput × Option (ℤ × Bytes))

/-- What the system calls return: `epoll_wait` the pointers that are ready, `accept` and the calls
after it a new connection, `read` its results for the pointer that is next, with the clock and the
outcome of the writes for line `n` of the event, and what is read and written in the turn after the
events. -/
inductive EpollInput (α : Type) where
  | wait (ready : List α)
  | accept (new : NewClient α)
  | client (reads : List ClientRead) (world : ℕ → ℤ × Bool)
  | turn (healthMs createdMs : ℤ) (writeOk : Bool) (sweepMs scanMs : ℤ)

/-- The process, and the pointers of the events that are still to be handled. -/
structure DaemonLoop (α δ : Type) where
  process : DaemonProcess α δ
  ready : List α

section DaemonLoop

variable {α δ : Type} [DecidableEq α] [CDouble δ]

namespace DaemonProcess

/-- The inner loop of `handle_client_event` for the connection at an address, with its descriptor,
for `fuel` rounds at most: the process, the number of lines so far, and the log. -/
def clientLines (a : α) (fd : ℤ) (world : ℕ → ℤ × Bool) :
    ℕ → ℕ → DaemonProcess α δ → Option (DaemonProcess α δ × ℕ × DaemonLog)
  | 0, _, _ => none
  | fuel + 1, n, p => do
      let object ← p.object a
      match sessionPopLine object.conn.session lineSize with
      | .noLine | .tooLong => return (p, n, [])
      | .line out rest =>
          let popped := p.put a { object with conn := { object.conn with session := rest } }
          let result := handleOneLine object.conn.fd p.ctx out (world n).1 (world n).2
          let piece := (.pop object.conn.id (world n).1 (world n).2, result.wrote)
          if result.ret < 0 then
            let q ← { popped with ctx := dropLinks result.ctx fd }.closeConnection a
            return (q, n + 1, [piece])
          else
            let (q, count, log) ←
              clientLines a fd world fuel (n + 1) { popped with ctx := result.ctx }
            return (q, count, piece :: log)

/-- The outer loop, for the results of its reads in order; when they are used up, `read` has no more
data. A line takes at least a byte of the session. -/
def clientReads (a : α) (fd : ℤ) (world : ℕ → ℤ × Bool) :
    List ClientRead → ℕ → DaemonProcess α δ → Option (DaemonProcess α δ) × DaemonLog
  | [], _, p | .again :: _, _, p => (some p, [])
  | .ended :: _, _, p | .failed :: _, _, p =>
      ({ p with ctx := dropLinks p.ctx fd }.closeConnection a, [(.hangUp (p.idAt a), none)])
  | .data bytes nowMs :: reads, n, p =>
      (p.object a).elim (none, []) fun object =>
        let piece := (.feed object.conn.id bytes nowMs, none)
        (sessionFeed object.conn.session bytes).elim (p.closeConnection a, [piece]) fun fed =>
          let conn := { object.conn with session := fed, lastActiveMs := nowMs }
          (clientLines a fd world 4097 n (p.put a { object with conn := conn })).elim
            (none, [piece]) fun popped =>
              -- Here `conn->state` is read.
              (popped.1.object a).elim (none, piece :: popped.2.2) fun other =>
                if other.state = .closed then (some popped.1, piece :: popped.2.2)
                else
                  let later := clientReads a fd world reads popped.2.1 popped.1
                  (later.1, piece :: popped.2.2 ++ later.2)

/-- `handle_client_event`. -/
def handleClientEvent (p : DaemonProcess α δ) (a : α) (reads : List ClientRead)
    (world : ℕ → ℤ × Bool) : Option (DaemonProcess α δ) × DaemonLog :=
  (p.object a).elim (none, []) fun object => clientReads a object.conn.fd world reads 0 p

/-- What `main` does after the events. -/
def afterEvents (p : DaemonProcess α δ) (healthMs createdMs : ℤ) (writeOk : Bool)
    (sweepMs scanMs : ℤ) : Option (DaemonProcess α δ) × DaemonLog :=
  let turn := runScheduler p.ctx healthMs createdMs writeOk
  let swept := { turn.1 with tracker := requestTrackerSweepTimeouts turn.1.tracker sweepMs }
  ({ p with ctx := swept }.scanConnectionTimeout scanMs,
    [(.runScheduler healthMs createdMs writeOk, turn.2), (.sweepRequests sweepMs, none),
      (.scanConnections scanMs, none)])

end DaemonProcess

/-- One step of the loop of `main`: the wait, one round of the accept loop, an event, or the turn
after the events. The wait and the turn come when no event is left. -/
def daemonStep (s : DaemonLoop α δ) : EpollInput α → Option (DaemonLoop α δ) × DaemonLog
  | .wait ready => (some (if s.ready = [] then { s with ready := ready } else s), [])
  | .accept new =>
      ((s.process.accept new).map fun p => { s with process := p },
        [(.accept new.fd new.nowMs new.setUp, none)])
  | .client reads world =>
      s.ready.head?.elim (some s, []) fun a =>
        let handled := s.process.handleClientEvent a reads world
        (handled.1.map fun p => ⟨p, s.ready.tail⟩, handled.2)
  | .turn healthMs createdMs writeOk sweepMs scanMs =>
      if s.ready = [] then
        let turn := s.process.afterEvents healthMs createdMs writeOk sweepMs scanMs
        (turn.1.map fun p => { s with process := p }, turn.2)
      else (some s, [])

/-- The loop, `none` once it has used an object that is not allocated. -/
def daemonLoop : Machine (Option (DaemonLoop α δ)) (EpollInput α) DaemonLog where
  step k input := k.elim (none, []) fun s => daemonStep s input

/-- What the system calls promise: pointers that are watched, each once, descriptors that are not
open, and addresses that are not in use. -/
def Promised (s : DaemonLoop α δ) : EpollInput α → Prop
  | .wait ready => ready.Nodup ∧ ∀ a ∈ ready, a ∈ s.process.watched.map Prod.snd
  | .accept new => 0 ≤ new.fd ∧ new.fd ∉ s.process.openFds ∧
      ∀ a ∈ new.address, s.process.heap a = none
  | .client .. | .turn .. => True

/-! ## Lines that wait -/

/-- A session holds a line that a pop takes. -/
def LineWaits (s : Session) : Prop := ∃ line rest, sessionPopLine s lineSize = .line line rest

/-- There is a newline among as many bytes as fit into `line`. -/
theorem lineWaits_iff (s : Session) : LineWaits s ↔ 10 ∈ s.buf.take (lineSize - 1) := by
  have room : ¬ lineSize < 2 := by decide
  constructor
  · rintro ⟨line, rest, popped⟩
    rw [sessionPopLine, if_neg room] at popped
    split at popped
    · cases popped
    rename_i i found
    obtain ⟨bound, newline, _⟩ := List.findIdx?_eq_some_iff_getElem.mp found
    by_cases long : lineSize ≤ i + 1
    · rw [if_pos long] at popped
      cases popped
    · have early : i < (s.buf.take (lineSize - 1)).length := by
        rw [List.length_take]
        omega
      rw [← of_decide_eq_true newline, ← List.getElem_take (h := early)]
      exact List.getElem_mem early
  · intro member
    obtain ⟨j, bound, newline⟩ := List.mem_iff_getElem.mp member
    rw [List.length_take] at bound
    rw [List.getElem_take] at newline
    cases found : s.buf.findIdx? fun b => decide (b = 10) with
    | none =>
        have other := List.findIdx?_eq_none_iff.mp found 10 (newline ▸ List.getElem_mem _)
        cases other
    | some i =>
        obtain ⟨_, _, first⟩ := List.findIdx?_eq_some_iff_getElem.mp found
        have before : i ≤ j := by
          by_contra later
          exact first j (not_le.mp later) (decide_eq_true newline)
        refine ⟨s.buf.take (i + 1), ⟨s.buf.drop (i + 1), ?_⟩, ?_⟩
        · have := s.length_le
          rw [List.length_drop]
          omega
        · rw [sessionPopLine, if_neg room, found]
          exact if_neg (by omega)

namespace Connections

/-- No line waits on an open connection. -/
def Settled (cs : Connections) : Prop := ∀ conn ∈ cs.list, ¬ LineWaits conn.session

/-- No line waits on another connection. -/
def SettledBut (cs : Connections) (id : ℕ) : Prop :=
  ∀ conn ∈ cs.list, conn.id ≠ id → ¬ LineWaits conn.session

variable {cs : Connections}

theorem Settled.but (settled : cs.Settled) (id : ℕ) : cs.SettledBut id :=
  fun conn member _ => settled conn member

theorem SettledBut.settled {conn : Connection} (others : cs.SettledBut conn.id)
    (member : conn ∈ cs.list) (last : ¬ LineWaits conn.session) : cs.Settled := by
  intro other inList
  by_cases same : other.id = conn.id
  · rw [eq_of_id inList member same]
    exact last
  · exact others other inList same

theorem SettledBut.close {id : ℕ} (others : cs.SettledBut id) : (cs.close id).Settled := by
  intro conn member
  obtain ⟨inList, other⟩ := mem_close.mp member
  exact others conn inList other

theorem SettledBut.update {id : ℕ} (others : cs.SettledBut id) (session : Session)
    (lastActiveMs : ℤ) : (cs.update id session lastActiveMs).SettledBut id := by
  intro conn member differs
  obtain ⟨old, inList, rfl⟩ := List.mem_map.mp member
  rw [updated_id] at differs
  rw [updated, if_neg differs]
  exact others old inList differs

theorem Settled.close (settled : cs.Settled) (id : ℕ) : (cs.close id).Settled :=
  (settled.but id).close

/-- A new connection has read nothing. -/
theorem Settled.add (settled : cs.Settled) {fd : ℤ} (nowMs : ℤ)
    (closed : fd ∉ cs.list.map Connection.fd) : (cs.add fd nowMs closed).Settled := by
  intro conn member
  rcases List.mem_cons.mp member with rfl | old
  · rintro ⟨line, rest, popped⟩
    cases popped
  · exact settled conn old

end Connections

omit [CDouble δ] in
theorem settled_acceptConnection {d : Daemon δ} (settled : d.conns.Settled) (fd nowMs : ℤ)
    (setUp : Bool) : (acceptConnection d fd nowMs setUp).conns.Settled := by
  rcases acceptConnection_cases d fd nowMs setUp with same | ⟨closed, same⟩
  all_goals rw [same]
  · exact settled
  · exact settled.add nowMs closed

omit [CDouble δ] in
theorem settled_scanConnectionTimeout {d : Daemon δ} (settled : d.conns.Settled) (nowMs : ℤ) :
    (scanConnectionTimeout d nowMs).conns.Settled :=
  scanConnectionTimeout_preserves (I := fun next => next.conns.Settled) nowMs
    (fun _ conn settled _ _ _ => settled.close conn.id) settled

/-! ## What a log leaves -/

/-- A line that is popped is not given up on. -/
def KeepsLines (d : Daemon δ) : DaemonInput → Prop
  | .pop id _ writeOk => ∀ conn line rest, Pops d id conn line rest →
      givesUp conn.fd d.ctx line writeOk = false
  | _ => True

omit [DecidableEq α] in
theorem keepsLines_iff {d : Daemon δ} {id : ℕ} {conn : Connection} {line : Bytes} {rest : Session}
    (pops : Pops d id conn line rest) (nowMs : ℤ) (writeOk : Bool) :
    KeepsLines d (.pop id nowMs writeOk) ↔ givesUp conn.fd d.ctx line writeOk = false := by
  refine ⟨fun keeps => keeps conn line rest pops, fun kept other out left others => ?_⟩
  obtain rfl : other = conn :=
    Connections.eq_of_id others.member pops.member (others.id_eq.trans pops.id_eq.symm)
  cases others.popped.symm.trans pops.popped
  exact kept

/-- From a state of the daemon, no line of the log is given up on, and the process holds the state
reached. -/
structure Carries (d : Daemon δ) (log : DaemonLog) (p : DaemonProcess α δ)
    (cells : List (α × ClientObject)) : Prop where
  holds : p.Holds cells (daemonMachine.run d (log.map Prod.fst))
  keeps : daemonMachine.Along KeepsLines d (log.map Prod.fst)

variable {d : Daemon δ} {p q : DaemonProcess α δ} {cells after : List (α × ClientObject)} {a : α}
  {object : ClientObject} {log more : DaemonLog}

omit [DecidableEq α] in
theorem Carries.append (before : Carries d log p cells)
    (later : Carries (daemonMachine.run d (log.map Prod.fst)) more q after) :
    Carries d (log ++ more) q after where
  holds := by
    rw [List.map_append, Machine.run_append]
    exact later.holds
  keeps := by
    rw [List.map_append]
    exact Machine.along_append.mpr ⟨before.keeps, later.keeps⟩

/-- The process holds a state of the daemon in which no line waits, with objects at these
addresses. -/
def DaemonProcess.Rests (kept : α → Prop) (p : DaemonProcess α δ) (d : Daemon δ) : Prop :=
  ∃ cells, p.Holds cells d ∧ d.conns.Settled ∧ ∀ a, kept a → a ∈ cells.map Prod.fst

omit [DecidableEq α] in
theorem Carries.reaches {kept : α → Prop} (carries : Carries d log q after)
    (settled : (daemonMachine.run d (log.map Prod.fst)).conns.Settled)
    (stays : ∀ b, kept b → b ∈ after.map Prod.fst) :
    daemonMachine.Reaches KeepsLines (DaemonProcess.Rests kept) d (some q, log) :=
  .related ⟨after, carries.holds, settled, stays⟩ carries.keeps

/-! ## The lines of an event -/

/-- **A line is popped and served**, and its connection stays. -/
theorem popped_carries (holds : p.Holds cells d) (member : (a, object) ∈ cells) {out : Bytes}
    {rest : Session} (popped : sessionPopLine object.conn.session lineSize = .line out rest)
    {nowMs : ℤ} {writeOk : Bool}
    (opened : ¬ (handleOneLine object.conn.fd p.ctx out nowMs writeOk).ret < 0) :
    let written := { object with conn := { object.conn with session := rest } }
    let result := handleOneLine object.conn.fd p.ctx out nowMs writeOk
    let log : DaemonLog := [(.pop object.conn.id nowMs writeOk, result.wrote)]
    Carries d log ({ p.put a written with ctx := result.ctx } : DaemonProcess α δ)
        (DaemonProcess.updateClient cells a written) ∧
      (daemonMachine.run d (log.map Prod.fst)).conns =
        d.conns.update object.conn.id rest object.conn.lastActiveMs ∧
      daemonMachine.Logs d log := by
  intro written result log
  have pops : Pops d object.conn.id object.conn out rest := ⟨holds.mem_conns member, rfl, popped⟩
  have kept : givesUp object.conn.fd d.ctx out writeOk = false := by
    rw [holds.ctx] at opened
    exact Bool.eq_false_iff.mpr fun up => opened ((handleOneLine_gives_up _ _ _ nowMs _).mpr up)
  have served : serveLine object.conn.fd d.ctx out nowMs writeOk =
      ⟨result.ctx, true, result.wrote⟩ := by
    rw [serveLine, ← holds.ctx]
    exact if_neg opened
  have step : daemonMachine.step d (.pop object.conn.id nowMs writeOk) =
      (afterServing d object.conn out rest nowMs writeOk, result.wrote) := by
    refine (pops.popConnection_eq nowMs writeOk).trans ?_
    rw [kept, served]
    rfl
  refine ⟨⟨?_, (keepsLines_iff pops nowMs writeOk).mpr kept, trivial⟩, ?_, ?_⟩
  · change DaemonProcess.Holds _ _ (daemonMachine.step d _).1
    rw [step, afterServing, served]
    exact (holds.update member rest object.conn.lastActiveMs).withCtx result.ctx
  · change (daemonMachine.step d _).1.conns = _
    rw [step, afterServing]
  · change [result.wrote] = [(daemonMachine.step d _).2]
    rw [step]

/-- **A line that is given up on** ends its connection. -/
theorem givenUp_closes (holds : p.Holds cells d) (member : (a, object) ∈ cells) {out : Bytes}
    {rest : Session} (popped : sessionPopLine object.conn.session lineSize = .line out rest)
    {nowMs : ℤ} {writeOk : Bool}
    (failed : (handleOneLine object.conn.fd p.ctx out nowMs writeOk).ret < 0) :
    let written := { object with conn := { object.conn with session := rest } }
    let result := handleOneLine object.conn.fd p.ctx out nowMs writeOk
    let log : DaemonLog := [(.pop object.conn.id nowMs writeOk, result.wrote)]
    (∃ q, ({ p.put a written with ctx := dropLinks result.ctx object.conn.fd } :
        DaemonProcess α δ).closeConnection a = some q ∧ q.object a = none) ∧
      ¬ KeepsLines d (.pop object.conn.id nowMs writeOk) ∧ daemonMachine.Logs d log := by
  intro written result log
  have pops : Pops d object.conn.id object.conn out rest := ⟨holds.mem_conns member, rfl, popped⟩
  have given : givesUp object.conn.fd d.ctx out writeOk = true := by
    rw [holds.ctx] at failed
    exact (handleOneLine_gives_up _ _ _ nowMs _).mp failed
  have wrote : (serveLine object.conn.fd d.ctx out nowMs writeOk).wrote = result.wrote := by
    rw [serveLine, ← holds.ctx, if_pos failed]
  have written := (holds.update member rest object.conn.lastActiveMs).withCtx
    (dropLinks result.ctx object.conn.fd)
  obtain ⟨q, closed, held⟩ := written.closeConnection (DaemonProcess.mem_updateClient member _)
  refine ⟨⟨q, closed, held.object_eq_none fun inside => ?_⟩, ?_, ?_⟩
  · obtain ⟨cell, inCells, same⟩ := List.mem_map.mp inside
    exact of_decide_eq_true (List.mem_filter.mp inCells).2 same
  · rw [keepsLines_iff pops, given]
    decide
  · change [result.wrote] = [(popConnection d object.conn.id nowMs writeOk).2]
    rw [pops.wrote, wrote]

/-- What the inner loop leaves: the connection, without lines that wait, or a log with a line that
was given up on. -/
inductive LinesOutcome (d : Daemon δ) (cells : List (α × ClientObject)) (a : α) (fd : ℤ)
    (q : DaemonProcess α δ) (log : DaemonLog) : Prop where
  | kept {after : List (α × ClientObject)} {object : ClientObject} : Carries d log q after →
      (a, object) ∈ after → object.conn.fd = fd →
      after.map Prod.fst = cells.map Prod.fst →
      (daemonMachine.run d (log.map Prod.fst)).conns.Settled → LinesOutcome d cells a fd q log
  | closed : q.object a = none → ¬ daemonMachine.Along KeepsLines d (log.map Prod.fst) →
      LinesOutcome d cells a fd q log

/-- **The inner loop** serves the lines of its connection, up to one that is given up on. -/
theorem clientLines_outcome {fd : ℤ} (world : ℕ → ℤ × Bool) (fuel n : ℕ) (holds : p.Holds cells d)
    (member : (a, object) ∈ cells) (same : object.conn.fd = fd)
    (enough : object.conn.session.buf.length < fuel)
    (others : d.conns.SettledBut object.conn.id) :
    ∃ q count log, p.clientLines a fd world fuel n = some (q, count, log) ∧
      LinesOutcome d cells a fd q log ∧ daemonMachine.Logs d log := by
  induction fuel generalizing n p cells d object with
  | zero => exact absurd enough (Nat.not_lt_zero _)
  | succ fuel ih =>
      have finished : ¬ LineWaits object.conn.session → LinesOutcome d cells a fd p [] :=
        fun last => .kept ⟨holds, trivial⟩ member same rfl
          (others.settled (holds.mem_conns member) last)
      simp only [DaemonProcess.clientLines, holds.object_eq member, Option.bind_eq_bind,
        Option.bind_some, Option.pure_def]
      cases popped : sessionPopLine object.conn.session lineSize with
      | noLine | tooLong =>
          refine ⟨p, n, [], rfl, finished ?_, rfl⟩
          rintro ⟨line, rest, waits⟩
          cases popped.symm.trans waits
      | line out rest =>
      by_cases failed :
          (handleOneLine object.conn.fd p.ctx out (world n).1 (world n).2).ret < 0
      · obtain ⟨⟨q, closed, gone⟩, given, logs⟩ := givenUp_closes holds member popped failed
        subst same
        simp only [if_pos failed, closed, Option.bind_some]
        exact ⟨_, _, _, rfl, .closed gone fun keeps => given keeps.1, logs⟩
      · obtain ⟨carries, conns, logs⟩ := popped_carries holds member popped failed
        obtain ⟨q, count, log, later, outcome, further⟩ := ih (n + 1) carries.holds
          (DaemonProcess.mem_updateClient member _) same
          (Nat.lt_of_lt_of_le (sessionPopLine_lt popped) (Nat.le_of_lt_succ enough))
          (conns ▸ others.update rest object.conn.lastActiveMs)
        simp only [if_neg failed, later, Option.bind_some]
        refine ⟨_, _, _, rfl, ?_, logs.append further⟩
        cases outcome with
        | kept rests inAfter sameFd addresses settled =>
            refine .kept (carries.append rests) inAfter sameFd (addresses.trans ?_) settled
            exact DaemonProcess.addresses_updateClient cells a _
        | closed gone given =>
            exact .closed gone fun keeps => given keeps.2

/-! ## The events -/

/-- The end of a connection, its links dropped. -/
theorem hungUp_carries (holds : p.Holds cells d) (member : (a, object) ∈ cells) :
    ∃ q, ({ p with ctx := dropLinks p.ctx object.conn.fd } : DaemonProcess α δ).closeConnection a =
        some q ∧
      Carries d [(.hangUp (p.idAt a), none)] q (DaemonProcess.removeClient cells a) ∧
      (daemonMachine.step d (.hangUp (p.idAt a))).1.conns = d.conns.close object.conn.id := by
  obtain ⟨q, closed, held⟩ :=
    (holds.withCtx (dropLinks p.ctx object.conn.fd)).closeConnection member
  have step : hangUpConnection d (p.idAt a) =
      closeConnection { d with ctx := dropLinks p.ctx object.conn.fd } object.conn.id := by
    rw [hangUpConnection, holds.idAt_eq member, holds.find_eq member, ← holds.ctx]
  refine ⟨q, closed, ⟨?_, trivial, trivial⟩, congrArg (fun next => next.conns) step⟩
  change q.Holds _ (hangUpConnection d (p.idAt a))
  rw [step]
  exact held

/-- A read that does not fit into the session ends its connection. -/
theorem overflow_carries (holds : p.Holds cells d) (member : (a, object) ∈ cells) {bytes : Bytes}
    (overflow : sessionFeed object.conn.session bytes = none) (nowMs : ℤ) :
    ∃ q, p.closeConnection a = some q ∧
      Carries d [(.feed object.conn.id bytes nowMs, none)] q
        (DaemonProcess.removeClient cells a) ∧
      (feedConnection d object.conn.id bytes nowMs).conns = d.conns.close object.conn.id := by
  obtain ⟨q, closed, held⟩ := holds.closeConnection member
  have step : feedConnection d object.conn.id bytes nowMs = closeConnection d object.conn.id := by
    rw [feedConnection, holds.find_eq member]
    simp only [overflow]
  refine ⟨q, closed, ⟨?_, trivial, trivial⟩, congrArg (fun next => next.conns) step⟩
  change q.Holds _ (feedConnection d object.conn.id bytes nowMs)
  rw [step]
  exact held

/-- A read that fits enters the session. -/
theorem fed_carries (holds : p.Holds cells d) (member : (a, object) ∈ cells) {bytes : Bytes}
    {fed : Session} (feeds : sessionFeed object.conn.session bytes = some fed) (nowMs : ℤ) :
    let written :=
      { object with conn := { object.conn with session := fed, lastActiveMs := nowMs } }
    Carries d [(.feed object.conn.id bytes nowMs, none)] (p.put a written)
        (DaemonProcess.updateClient cells a written) ∧
      (feedConnection d object.conn.id bytes nowMs).conns =
        d.conns.update object.conn.id fed nowMs := by
  have step : feedConnection d object.conn.id bytes nowMs =
      { d with conns := d.conns.update object.conn.id fed nowMs } := by
    rw [feedConnection, holds.find_eq member]
    simp only [feeds]
  refine ⟨⟨?_, trivial, trivial⟩, congrArg (fun next => next.conns) step⟩
  change DaemonProcess.Holds _ _ (feedConnection d object.conn.id bytes nowMs)
  rw [step]
  exact holds.update member fed nowMs

/-- **The outer loop** keeps the other connections, or fails after a line that is given up on. -/
theorem clientReads_reaches {fd : ℤ} (world : ℕ → ℤ × Bool) (reads : List ClientRead) (n : ℕ)
    (holds : p.Holds cells d) (member : (a, object) ∈ cells) (same : object.conn.fd = fd)
    (settled : d.conns.Settled) :
    daemonMachine.Reaches KeepsLines
        (DaemonProcess.Rests fun b => b ∈ cells.map Prod.fst ∧ b ≠ a) d
        (p.clientReads a fd world reads n) ∧
      daemonMachine.Logs d (p.clientReads a fd world reads n).2 := by
  have waits : daemonMachine.Reaches KeepsLines
      (DaemonProcess.Rests fun b => b ∈ cells.map Prod.fst ∧ b ≠ a) d (some p, []) ∧
      daemonMachine.Logs d [] :=
    ⟨Carries.reaches ⟨holds, trivial⟩ settled fun _ here => here.1, rfl⟩
  have removed : ∀ b, b ∈ cells.map Prod.fst ∧ b ≠ a →
      b ∈ (DaemonProcess.removeClient cells a).map Prod.fst :=
    fun b here => DaemonProcess.mem_removeClient here.1 here.2
  induction reads generalizing n p cells d object with
  | nil => exact waits
  | cons result reads ih =>
  cases result with
  | again => exact waits
  | ended | failed =>
      subst same
      obtain ⟨q, closed, carries, conns⟩ := hungUp_carries holds member
      rw [DaemonProcess.clientReads, closed]
      exact ⟨carries.reaches (conns ▸ settled.close object.conn.id) removed, rfl⟩
  | data bytes nowMs =>
  rw [DaemonProcess.clientReads, holds.object_eq member, Option.elim_some]
  cases feeds : sessionFeed object.conn.session bytes with
  | none =>
      obtain ⟨q, closed, carries, conns⟩ := overflow_carries holds member feeds nowMs
      simp only [Option.elim_none, closed]
      refine ⟨carries.reaches ?_ removed, rfl⟩
      change (feedConnection d object.conn.id bytes nowMs).conns.Settled
      rw [conns]
      exact settled.close object.conn.id
  | some fed =>
  obtain ⟨carries, conns⟩ := fed_carries holds member feeds nowMs
  have fits : fed.buf.length < 4097 := Nat.lt_succ_of_le fed.length_le
  have others : (feedConnection d object.conn.id bytes nowMs).conns.SettledBut object.conn.id := by
    rw [conns]
    exact (settled.but object.conn.id).update fed nowMs
  obtain ⟨q, count, log, lines, outcome, logs⟩ := clientLines_outcome world 4097 n carries.holds
    (DaemonProcess.mem_updateClient member _) same fits others
  have logged : daemonMachine.Logs d ([(.feed object.conn.id bytes nowMs, none)] ++ log) :=
    Machine.Logs.append rfl logs
  simp only [Option.elim_some, lines]
  cases outcome with
  | closed gone given =>
      rw [gone]
      exact ⟨.failed fun keeps => given keeps.2, logged⟩
  | @kept after other popped inAfter sameFd addresses settled =>
      have whole := carries.append popped
      have isOpen : other.state ≠ .closed := by
        rw [popped.holds.live _ inAfter]
        decide
      rw [popped.holds.object_eq inAfter, Option.elim_some, if_neg isOpen]
      rw [DaemonProcess.addresses_updateClient] at addresses
      obtain ⟨later, further⟩ := ih count whole.holds inAfter sameFd settled
        ⟨Carries.reaches ⟨whole.holds, trivial⟩ settled fun _ here => here.1, rfl⟩
        fun b here => DaemonProcess.mem_removeClient here.1 here.2
      rw [addresses] at later
      exact ⟨later.append whole.keeps, logged.append further⟩

/-! ## The steps -/

/-- The process holds the state of the daemon, in which no line waits, and the events that are left
are of its connections, each once. -/
structure LoopInStep (s : DaemonLoop α δ) (cells : List (α × ClientObject)) (d : Daemon δ) :
    Prop where
  holds : s.process.Holds cells d
  distinct : s.ready.Nodup
  live : s.ready ⊆ cells.map Prod.fst
  settled : d.conns.Settled

/-- The loop is in step with the daemon. -/
def DaemonLoop.Follows (s : DaemonLoop α δ) (d : Daemon δ) : Prop := ∃ cells, LoopInStep s cells d

variable {s : DaemonLoop α δ}

omit [DecidableEq α] [CDouble δ] in
/-- A process and the events that are left. -/
theorem DaemonProcess.Rests.follows {kept : α → Prop} (rests : p.Rests kept d) {ready : List α}
    (distinct : ready.Nodup) (live : ∀ b ∈ ready, kept b) :
    DaemonLoop.Follows ⟨p, ready⟩ d := by
  obtain ⟨cells, holds, settled, stays⟩ := rests
  exact ⟨cells, holds, distinct, fun b inReady => stays b (live b inReady), settled⟩

/-- **The turn after the events** is one of the daemon. -/
theorem afterEvents_reaches (holds : p.Holds cells d) (settled : d.conns.Settled)
    (healthMs createdMs : ℤ) (writeOk : Bool) (sweepMs scanMs : ℤ) :
    daemonMachine.Reaches KeepsLines (DaemonProcess.Rests fun _ : α => False) d
        (p.afterEvents healthMs createdMs writeOk sweepMs scanMs) ∧
      daemonMachine.Logs d (p.afterEvents healthMs createdMs writeOk sweepMs scanMs).2 := by
  have turned := holds.withCtx
    { (runScheduler p.ctx healthMs createdMs writeOk).1 with
      tracker := requestTrackerSweepTimeouts
        (runScheduler p.ctx healthMs createdMs writeOk).1.tracker sweepMs }
  obtain ⟨q, after, scanned, held⟩ := turned.scanConnectionTimeout scanMs
  have result : p.afterEvents healthMs createdMs writeOk sweepMs scanMs = (some q,
      [(.runScheduler healthMs createdMs writeOk,
          (runScheduler p.ctx healthMs createdMs writeOk).2),
        (.sweepRequests sweepMs, none), (.scanConnections scanMs, none)]) := by
    rw [DaemonProcess.afterEvents, scanned]
  rw [result]
  rw [holds.ctx] at held ⊢
  refine ⟨Carries.reaches ⟨held, trivial, trivial, trivial, trivial⟩ ?_ fun _ none => none.elim,
    rfl⟩
  let swept : AppCtx δ :=
    { (runScheduler d.ctx healthMs createdMs writeOk).1 with
      tracker := requestTrackerSweepTimeouts
        (runScheduler d.ctx healthMs createdMs writeOk).1.tracker sweepMs }
  exact settled_scanConnectionTimeout (d := { d with ctx := swept }) settled scanMs

/-- **Every step of the loop** does what the daemon does on its log, until a line is given up on. -/
theorem daemonStep_refines (inStep : LoopInStep s cells d) {input : EpollInput α}
    (promised : Promised s input) :
    daemonMachine.Reaches KeepsLines DaemonLoop.Follows d (daemonStep s input) ∧
      daemonMachine.Logs d (daemonStep s input).2 := by
  obtain ⟨holds, distinct, live, settled⟩ := inStep
  have waits : daemonMachine.Reaches KeepsLines DaemonLoop.Follows d (some s, []) ∧
      daemonMachine.Logs d [] :=
    ⟨.related ⟨cells, holds, distinct, live, settled⟩ trivial, rfl⟩
  cases input with
  | wait ready =>
      rw [daemonStep]
      by_cases handled : s.ready = []
      · rw [if_pos handled]
        refine ⟨.related ⟨cells, holds, promised.1, fun a inReady => ?_, settled⟩ trivial, rfl⟩
        have watched := promised.2 a inReady
        rw [holds.watched, List.map_map] at watched
        exact watched
      · rw [if_neg handled]
        exact waits
  | accept new =>
      obtain ⟨accepted, closed, unused⟩ := promised
      obtain ⟨q, after, opened, held, stays⟩ := holds.accept accepted closed unused
      rw [daemonStep, opened]
      refine ⟨.related ⟨after, held, distinct, fun a inReady => stays (live inReady), ?_⟩
        ⟨trivial, trivial⟩, rfl⟩
      exact settled_acceptConnection settled new.fd new.nowMs new.setUp
  | client reads world =>
      rw [daemonStep]
      cases ready : s.ready with
      | nil =>
          rw [List.head?_nil]
          exact waits
      | cons a rest =>
      rw [ready] at distinct live
      obtain ⟨cell, member, rfl⟩ := List.mem_map.mp (live List.mem_cons_self)
      obtain ⟨reaches, logs⟩ := clientReads_reaches world reads 0 holds member rfl settled
      have handled : s.process.handleClientEvent cell.1 reads world =
          s.process.clientReads cell.1 cell.2.conn.fd world reads 0 := by
        rw [DaemonProcess.handleClientEvent, holds.object_eq member, Option.elim_some]
      simp only [List.head?_cons, Option.elim_some, List.tail_cons, handled]
      obtain ⟨notAgain, restDistinct⟩ := List.nodup_cons.mp distinct
      refine ⟨reaches.map _ fun q e rests => rests.follows restDistinct fun b inRest =>
        ⟨live (List.mem_cons_of_mem _ inRest), ?_⟩, logs⟩
      rintro rfl
      exact notAgain inRest
  | turn healthMs createdMs writeOk sweepMs scanMs =>
      rw [daemonStep]
      by_cases handled : s.ready = []
      · obtain ⟨reaches, logs⟩ :=
          afterEvents_reaches holds settled healthMs createdMs writeOk sweepMs scanMs
        rw [if_pos handled]
        refine ⟨reaches.map _ fun q e rests => rests.follows distinct fun b inReady => ?_, logs⟩
        rw [handled] at inReady
        exact absurd inReady List.not_mem_nil
      · rw [if_neg handled]
        exact waits

/-! ## Runs -/

variable (δ) in
/-- The system calls keep what they promise along a run of the loop. -/
def PromisedRun (start : Option (DaemonLoop α δ)) (inputs : List (EpollInput α)) : Prop :=
  daemonLoop.Along (fun k input => ∀ s, k = some s → Promised s input) start inputs

variable (α δ) in
/-- The loop when `main` enters it. -/
def daemonStart : Option (DaemonLoop α δ) := some ⟨.start (daemonInit : Daemon δ).ctx, []⟩

variable (δ) in
/-- What a run of the loop does. -/
def daemonLog (inputs : List (EpollInput α)) : DaemonLog :=
  (daemonLoop.outputs (daemonStart α δ) inputs).flatten

/-- **A run of the loop** does what the daemon does on its log, until a line is given up on. -/
theorem daemonLoop_refines {inputs : List (EpollInput α)}
    (promised : PromisedRun δ (daemonStart α δ) inputs) :
    daemonMachine.Reaches KeepsLines DaemonLoop.Follows (daemonInit : Daemon δ)
        (daemonLoop.run (daemonStart α δ) inputs, daemonLog δ inputs) ∧
      daemonMachine.Logs (daemonInit : Daemon δ) (daemonLog δ inputs) := by
  refine Machine.run_reaches (fun _ => rfl) (fun s d input follows granted => ?_) ?_ promised
  · obtain ⟨cells, inStep⟩ := follows
    exact daemonStep_refines inStep granted
  · refine ⟨[], DaemonProcess.Holds.start, List.nodup_nil, List.nil_subset _, ?_⟩
    exact fun conn none => absurd none List.not_mem_nil

/-- **The loop uses objects that are there** in every run in which the system calls keep their
promises, exactly when no line that it pops is given up on. It does what the daemon does on the log
of its pieces, and as long as it has not failed its memory, descriptors, watches and table are those
of the connections of the daemon. -/
theorem daemon_loop_safe_iff {inputs : List (EpollInput α)}
    (promised : PromisedRun δ (daemonStart α δ) inputs) :
    let log := daemonLog δ inputs
    daemonMachine.Logs (daemonInit : Daemon δ) log ∧
      (daemonLoop.run (daemonStart α δ) inputs ≠ none ↔
        daemonMachine.Along KeepsLines (daemonInit : Daemon δ) (log.map Prod.fst)) ∧
      ∀ s, daemonLoop.run (daemonStart α δ) inputs = some s →
        ∃ cells, s.process.Holds cells (daemonMachine.run daemonInit (log.map Prod.fst)) := by
  obtain ⟨reaches, logs⟩ := daemonLoop_refines promised
  refine ⟨logs, reaches.ne_none_iff, fun s reached => ?_⟩
  rw [reached] at reaches
  obtain ⟨cells, inStep⟩ := reaches.related_of_some
  exact ⟨cells, inStep.holds⟩

/-- A client connects, sends a line in two pieces, gets its error reply and hangs up; another one
gets its descriptor and its address. -/
def clientComesAndGoes : List (EpollInput ℕ) :=
  [.accept ⟨5, true, some 200, 0, true⟩, .wait [200],
    .client [.data (ascii "HEL") 1, .data (ascii "LO\n") 2, .ended] fun _ => (2, true),
    .turn 3 3 true 3 3, .accept ⟨5, true, some 200, 4, true⟩]

theorem clientComesAndGoes_promised : PromisedRun ℚ (daemonStart ℕ ℚ) clientComesAndGoes := by
  refine ⟨?_, ?_, ?_, ?_, ?_, trivial⟩
  · rintro s ⟨⟩
    exact ⟨by decide, by decide, fun a given => by cases given; rfl⟩
  · rintro s ⟨⟩
    exact ⟨by decide, by decide⟩
  · rintro s ⟨⟩
    trivial
  · rintro s ⟨⟩
    trivial
  · rintro s ⟨⟩
    exact ⟨by decide, by decide, fun a given => by cases given; rfl⟩

/-- An address that is used again. -/
theorem daemon_loop_safe_reused :
    daemonMachine.Along KeepsLines (daemonInit : Daemon ℚ)
        ((daemonLog ℚ clientComesAndGoes).map Prod.fst) ∧
      ∃ s cells, daemonLoop.run (daemonStart ℕ ℚ) clientComesAndGoes = some s ∧
        s.process.Holds cells
          (daemonMachine.run daemonInit ((daemonLog ℚ clientComesAndGoes).map Prod.fst)) := by
  obtain ⟨_, safe, holds⟩ := daemon_loop_safe_iff clientComesAndGoes_promised
  cases reached : daemonLoop.run (daemonStart ℕ ℚ) clientComesAndGoes with
  | none => cases reached
  | some s =>
      obtain ⟨cells, held⟩ := holds s reached
      exact ⟨safe.mp (reached ▸ Option.some_ne_none s), s, cells, rfl, held⟩

/-- **No line waits between two steps.** What a connection has sent up to a newline, and fits into
`line`, has been served when the loop is done with its event: epoll reports only what is still to be
read. -/
theorem daemon_loop_leaves_no_line {inputs : List (EpollInput α)}
    (promised : PromisedRun δ (daemonStart α δ) inputs) :
    ∀ s, daemonLoop.run (daemonStart α δ) inputs = some s →
      ∀ a object, s.process.heap a = some object →
        10 ∉ object.conn.session.buf.take (lineSize - 1) := by
  intro s reached a object allocated
  have reaches := (daemonLoop_refines promised).1
  rw [reached] at reaches
  obtain ⟨cells, inStep⟩ := reaches.related_of_some
  rw [← lineWaits_iff]
  exact inStep.settled _ (inStep.holds.mem_conns ((inStep.holds.heap a object).mp allocated))

/-- A client whose second line is not complete. -/
def clientMidLine : List (EpollInput ℕ) :=
  [.accept ⟨5, true, some 200, 0, true⟩, .wait [200],
    .client [.data (ascii "HELLO\nHEL") 1] fun _ => (2, true)]

theorem clientMidLine_promised : PromisedRun ℚ (daemonStart ℕ ℚ) clientMidLine := by
  refine ⟨?_, ?_, ?_, trivial⟩
  · rintro s ⟨⟩
    exact ⟨by decide, by decide, fun a given => by cases given; rfl⟩
  · rintro s ⟨⟩
    exact ⟨by decide, by decide⟩
  · rintro s ⟨⟩
    trivial

theorem daemon_loop_leaves_no_line_cut :
    ∃ s, daemonLoop.run (daemonStart ℕ ℚ) clientMidLine = some s ∧
      ∀ a object, s.process.heap a = some object →
        10 ∉ object.conn.session.buf.take (lineSize - 1) :=
  ⟨_, rfl, daemon_loop_leaves_no_line clientMidLine_promised _ rfl⟩

end DaemonLoop

end EquipmentControl
