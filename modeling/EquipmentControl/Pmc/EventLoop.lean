import EquipmentControl.Pmc.PeerMemory

/-!
# The event loop of the process controller

The loops of `main.c` in `nodes/pmc/src` on bytes and pointers: `epoll_wait` reports the pointers of
connections with something to read, `handle_connected_peer` reads, feeds the session, pops its lines
and serves their messages, and the listening socket accepts connections in between. What the system
calls return is an input (`LoopInput`), within what they promise (`Granted`): pointers that are
watched, each once, descriptors that are not open, addresses that are not in use.

The loop keeps a log of what it does, message by message, with the connections by their number. Each
of its steps is a run of the message machine `pmcMachine` on that log (`peerLines_serves` for the
inner loop, `peerReads_serves` for an event, `loopStep_refines`). An event releases its own
connection only and each pointer is reported once, so those still to be handled stay valid.

So the loop never uses an object that is not allocated, and no memory, descriptor or watch is left
of a connection that is gone (`loop_memory_safe`). What it serves are the lines of each connection's
own stream, however they were cut and interleaved (`loop_serves_frames`).
-/

set_option autoImplicit false

namespace EquipmentControl

open InputMachine LineText LinkedList

/-! ## The lines of a connection -/

/-- The lines that the reads of a connection deliver from a session on, and the session they leave,
`none` once a read does not fit into it. -/
def sessionReads (s : Session) (cap : ℕ) : List Bytes → List Bytes × Option Session
  | [] => ([], some s)
  | data :: reads =>
      match sessionFeed s data with
      | none => ([], none)
      | some fed =>
          let later := sessionReads (drain fed cap).2.1 cap reads
          ((drain fed cap).1 ++ later.1, later.2)

/-- Reads follow on reads. -/
theorem sessionReads_append {s left : Session} {cap : ℕ} {first : List Bytes}
    (kept : (sessionReads s cap first).2 = some left) (second : List Bytes) :
    sessionReads s cap (first ++ second) =
      ((sessionReads s cap first).1 ++ (sessionReads left cap second).1,
        (sessionReads left cap second).2) := by
  induction first generalizing s with
  | nil =>
      cases kept
      rfl
  | cons data first ih =>
      rw [List.cons_append]
      simp only [sessionReads] at kept ⊢
      cases feeds : sessionFeed s data with
      | none =>
          rw [feeds] at kept
          cases kept
      | some fed =>
          rw [feeds] at kept
          simp only at kept ⊢
          rw [ih kept, List.append_assoc]

/-- On a stream of short lines the reads deliver what `receive` makes of them. -/
theorem sessionReads_of_receive {s left : Session} {cap : ℕ} {reads lines : List Bytes}
    (received : receive s cap reads = some (lines, left)) :
    sessionReads s cap reads = (lines, some left) := by
  induction reads generalizing s lines with
  | nil =>
      cases received
      rfl
  | cons data reads ih =>
      rw [receive] at received
      rw [sessionReads]
      cases feeds : sessionFeed s data with
      | none =>
          rw [feeds] at received
          cases received
      | some fed =>
          rw [feeds] at received
          simp only at received ⊢
          rcases drained : drain fed cap with ⟨popped, rest, flag⟩
          rw [drained] at received
          cases flag with
          | false => cases received
          | true =>
              simp only at received ⊢
              cases further : receive rest cap reads with
              | none =>
                  rw [further] at received
                  cases received
              | some result =>
                  rw [further] at received
                  cases received
                  rw [ih further]

/-! ## The loops -/

/-- How the reads of an event end: no more data, the end of the connection, or a failure. -/
inductive ReadEnd where
  | again
  | ended
  | failed
deriving DecidableEq

/-- What the system calls return: `epoll_wait` the pointers that are ready, `accept` and the calls
after it a new connection, and `read` some data, then one of its ends, for the pointer that is next.
`world n` are the outcomes of the writes for message `n` of the event. -/
inductive LoopInput (α : Type) where
  | wait (ready : List α)
  | accept (new : NewPeer α)
  | peer (reads : List Bytes) (last : ReadEnd) (world : ℕ → ℤ → Bool)

/-- The process, and the pointers of the events that are still to be handled. -/
structure PmcLoop (α τ : Type) where
  process : PmcProcess α τ
  ready : List α

/-- What is done, in terms of numbered connections and their messages. -/
abbrev LoopLog (δ : Type) := List (PmcInput δ × PmcCall)

/-- A call that neither writes nor uses the serial port. -/
def idleCall : PmcCall := ⟨none, []⟩

section Loop

variable {α δ τ : Type} [DecidableEq α] [CDouble δ] (io : SerialPort τ)

namespace PmcProcess

/-- The process at the start of a call, nothing logged. -/
def logging (p : PmcProcess α τ) : PmcProcess α (τ × List SerialOp) :=
  { p with aux := ⟨p.aux.cfg, p.aux.port, []⟩ }

/-- The process after a call, without the log. -/
def unlogged (p : PmcProcess α (τ × List SerialOp)) : PmcProcess α τ :=
  { p with aux := ⟨p.aux.cfg, p.aux.port.1⟩ }

/-- A message is served, with what is written and the calls on the serial port. -/
def serveLogged (p : PmcProcess α τ) (a : α) (m : Message δ) (writeOk : ℤ → Bool) :
    Option (PmcProcess α τ × PmcCall) :=
  (p.logging.serveMessage io.logged a m writeOk).map fun served =>
    (served.1.unlogged, ⟨served.2, served.1.aux.port.2⟩)

/-- The inner loop of `handle_connected_peer`, for `fuel` rounds at most: the process, the number of
messages so far, and the log. -/
def peerLines (a : α) (world : ℕ → ℤ → Bool) :
    ℕ → ℕ → PmcProcess α τ → Option (PmcProcess α τ × ℕ × LoopLog δ)
  | 0, _, _ => none
  | fuel + 1, n, p => do
      let peer ← p.object a
      match sessionPopLine peer.session 1024 with
      | .noLine | .tooLong => return (p, n, [])
      | .line out rest =>
          let q := p.put a { peer with session := rest }
          match (lineParse out : Option (Message δ)) with
          | none => peerLines a world fuel n q
          | some m =>
              let (served, call) ← q.serveLogged io a m (world n)
              let (last, count, log) ← peerLines a world fuel (n + 1) served
              return (last, count, (.message peer.conn.id m (world n), call) :: log)

/-- `handle_connected_peer`, from a read on. A line takes at least a byte of the session. -/
def peerReads (a : α) (last : ReadEnd) (world : ℕ → ℤ → Bool) :
    List Bytes → ℕ → PmcProcess α τ → Option (PmcProcess α τ × LoopLog δ)
  | [], _, p => do
      let peer ← p.object a
      if last = .again then return (p, [])
      else
        let q ← p.closeConnection a
        return (q, [(.disconnect peer.conn.id, idleCall)])
  | data :: reads, n, p => do
      let peer ← p.object a
      match sessionFeed peer.session data with
      | none =>
          let q ← p.closeConnection a
          return (q, [(.disconnect peer.conn.id, idleCall)])
      | some fed =>
          let (q, count, log) ← peerLines io a world 4097 n (p.put a { peer with session := fed })
          let (r, more) ← peerReads a last world reads count q
          return (r, log ++ more)

end PmcProcess

/-- One step of the loop of `main`: the wait, one round of the accept loop, or an event. -/
def loopStep (s : PmcLoop α τ) : LoopInput α → Option (PmcLoop α τ × LoopLog δ)
  | .wait ready => some ({ s with ready := ready }, [])
  | .accept new => do
      let (q, a) ← s.process.openPeer new
      let log : LoopLog δ :=
        if q.made = s.process.made then []
        else if a.isSome then [(.connect new.fd, idleCall)]
        else [(.connect new.fd, idleCall), (.disconnect s.process.made, idleCall)]
      return ({ s with process := q }, log)
  | .peer reads last world =>
      match s.ready with
      | [] => some (s, [])
      | a :: ready => do
          let (q, log) ← s.process.peerReads io a last world reads 0
          return (⟨q, ready⟩, log)

/-- The loop, `none` once it has used an object that is not allocated. -/
def pmcLoop : Machine (Option (PmcLoop α τ)) (LoopInput α) (LoopLog δ) where
  step s input := (s.bind fun t => loopStep io t input).elim (none, []) fun next =>
    (some next.1, next.2)

/-- What the system calls promise. -/
def Granted (s : PmcLoop α τ) : LoopInput α → Prop
  | .wait ready => ready.Nodup ∧ ∀ a ∈ ready, a ∈ s.process.watched.map Prod.snd
  | .accept new => new.fd ∉ s.process.openFds ∧ ∀ a ∈ new.address, s.process.store.heap a = none
  | .peer .. => True

/-! ## Lines and messages of one connection -/

/-- The messages that some lines carry. -/
def lineMessages (lines : List Bytes) : List (Message δ) :=
  lines.filterMap fun line => (lineParse line : Option (Message δ))

/-- The messages of a connection as inputs of the message machine, from message `n` of the event
on. -/
def messageInputs (id : ℕ) (world : ℕ → ℤ → Bool) : ℕ → List (Message δ) → List (PmcInput δ)
  | _, [] => []
  | n, m :: rest => .message id m (world n) :: messageInputs id world (n + 1) rest

omit [DecidableEq α] [CDouble δ] in
theorem messageInputs_append (id : ℕ) (world : ℕ → ℤ → Bool) (n : ℕ)
    (first second : List (Message δ)) :
    messageInputs id world n (first ++ second) =
      messageInputs id world n first ++ messageInputs id world (n + first.length) second := by
  induction first generalizing n with
  | nil => rfl
  | cons m first ih =>
      rw [List.cons_append, messageInputs, messageInputs, ih, List.length_cons,
        Nat.add_right_comm, Nat.add_assoc]
      rfl

/-- The session of the connection at an address is another one. -/
def setSession (keys : List (α × ℕ × Session)) (a : α) (s : Session) : List (α × ℕ × Session) :=
  keys.map fun key => if key.1 = a then (a, key.2.1, s) else key

theorem setSession_setSession (keys : List (α × ℕ × Session)) (a : α) (s t : Session) :
    setSession (setSession keys a s) a t = setSession keys a t := by
  rw [setSession, setSession, setSession, List.map_map]
  refine List.map_congr_left fun key _ => ?_
  dsimp only [Function.comp_apply]
  by_cases here : key.1 = a
  · simp only [if_pos here, if_true]
  · simp only [if_neg here]

omit [DecidableEq α] in
/-- A cell with the keys of a connection. -/
theorem mem_of_peerKeys {cells : List (α × PeerObject)} {a : α} {id : ℕ} {s : Session}
    (member : (a, id, s) ∈ PmcProcess.peerKeys cells) :
    ∃ peer, (a, peer) ∈ cells ∧ peer.conn.id = id ∧ peer.session = s := by
  obtain ⟨⟨_, peer⟩, inCells, same⟩ := List.mem_map.mp member
  cases same
  exact ⟨peer, inCells, rfl, rfl⟩

/-! ## What the loop performs -/

/-- The process is a node of the message machine, with its connections in these cells. -/
structure Represents (p : PmcProcess α τ) (cells : List (α × PeerObject)) (node : PmcNode τ) :
    Prop where
  holds : p.Holds cells node.pmc.conns
  aux : p.aux = node.pmc.aux
  made : p.made = node.nextId

/-- From a node, the log is one of the message machine, up to what the process is after it. -/
structure Performs (node : PmcNode τ) (log : LoopLog δ) (p : PmcProcess α τ)
    (cells : List (α × PeerObject)) : Prop where
  represents : Represents p cells ((pmcMachine io).run node (log.map Prod.fst))
  logs : (pmcMachine io).Logs node log

variable {io} {p q : PmcProcess α τ} {cells after : List (α × PeerObject)} {node : PmcNode τ}
  {a : α} {peer : PeerObject}

omit [DecidableEq α] in
theorem Represents.performs (represents : Represents p cells node) :
    Performs (δ := δ) io node [] p cells := ⟨represents, rfl⟩

omit [DecidableEq α] in
theorem Performs.append {log more : LoopLog δ} (before : Performs io node log p cells)
    (later : Performs io ((pmcMachine io).run node (log.map Prod.fst)) more q after) :
    Performs io node (log ++ more) q after where
  represents := by
    rw [List.map_append, Machine.run_append]
    exact later.represents
  logs := before.logs.append later.logs

omit [DecidableEq α] in
/-- A single call. -/
theorem Represents.single {input : PmcInput δ} {call : PmcCall}
    (represents : Represents q after ((pmcMachine io).step node input).1)
    (answered : call = ((pmcMachine io).step node input).2) :
    Performs io node [(input, call)] q after := ⟨represents, by rw [answered]; rfl⟩

/-- The session of a connection is written. -/
theorem Represents.setSession (represents : Represents p cells node) (member : (a, peer) ∈ cells)
    (s : Session) :
    Represents (p.put a { peer with session := s })
        (PmcProcess.updatePeer cells a { peer with session := s }) node ∧
      PmcProcess.peerKeys (PmcProcess.updatePeer cells a { peer with session := s }) =
        EquipmentControl.setSession (PmcProcess.peerKeys cells) a s ∧
      (a, { peer with session := s }) ∈
        PmcProcess.updatePeer cells a { peer with session := s } := by
  have holds := represents.holds
  have written := holds.put member { peer with session := s } rfl rfl
  have same : updateConn node.pmc.conns peer.conn = node.pmc.conns := by
    rw [updateConn]
    conv_rhs => rw [← List.map_id node.pmc.conns]
    refine List.map_congr_left fun other inList => ?_
    by_cases here : other.id = peer.conn.id
    · rw [if_pos here]
      exact List.inj_on_of_nodup_map node.distinctIds (holds.mem_conns member) inList here.symm
    · rw [if_neg here]
      rfl
  refine ⟨⟨same ▸ written, represents.aux, represents.made⟩, ?_,
    List.mem_map.mpr ⟨_, member, if_pos rfl⟩⟩
  simp only [PmcProcess.peerKeys, PmcProcess.updatePeer, EquipmentControl.setSession, List.map_map]
  refine List.map_congr_left fun cell inCells => ?_
  dsimp only [Function.comp_apply]
  by_cases here : cell.1 = a
  · simp only [holds.eq_of_address inCells member here, if_true]
  · simp only [if_neg here]

/-- **A message is served** as the message machine does. -/
theorem serveLogged_performs (represents : Represents p cells node) (member : (a, peer) ∈ cells)
    (m : Message δ) (writeOk : ℤ → Bool) :
    ∃ q call after, p.serveLogged io a m writeOk = some (q, call) ∧
      Performs io node [(.message peer.conn.id m writeOk, call)] q after ∧
      PmcProcess.peerKeys after = PmcProcess.peerKeys cells := by
  have holds := represents.holds
  have logging : p.logging.Holds cells node.pmc.conns :=
    ⟨holds.owned, holds.listed, holds.openFds, holds.watched, holds.fresh, holds.distinctIds,
      holds.distinctFds⟩
  obtain ⟨q, after, served, kept, aux, made, keys⟩ :=
    PmcProcess.serveMessage_holds io.logged logging member m writeOk
  have called : pmcServeMessage io.logged ⟨node.pmc.conns, p.logging.aux⟩ peer.conn.id m writeOk =
      node.call io peer.conn.id m writeOk := by
    rw [PmcNode.call, Pmc.logging, ← represents.aux]
    rfl
  rw [called] at served kept aux
  refine ⟨q.unlogged, _, after, by rw [PmcProcess.serveLogged, served]; rfl, ?_, keys⟩
  refine Represents.single ⟨⟨kept.owned, kept.listed, kept.openFds, kept.watched, kept.fresh,
    kept.distinctIds, kept.distinctFds⟩, ?_, made.trans represents.made⟩ ?_
  · rw [PmcProcess.unlogged, aux]
    rfl
  · rw [aux]
    rfl

/-- The session that is set is the one that is there. -/
theorem setSession_self (holds : p.Holds cells node.pmc.conns) (member : (a, peer) ∈ cells) :
    setSession (PmcProcess.peerKeys cells) a peer.session = PmcProcess.peerKeys cells := by
  rw [setSession, PmcProcess.peerKeys, List.map_map]
  refine List.map_congr_left fun cell inCells => ?_
  dsimp only [Function.comp_apply]
  by_cases here : cell.1 = a
  · simp only [holds.eq_of_address inCells member here, if_true]
  · rw [if_neg here]

variable (io) in
/-- The inner loop has served the messages of the lines it drains from the session. -/
structure LinesServed (node : PmcNode τ) (cells : List (α × PeerObject)) (a : α) (peer : PeerObject)
    (world : ℕ → ℤ → Bool) (n : ℕ) (q : PmcProcess α τ) (count : ℕ) (log : LoopLog δ)
    (after : List (α × PeerObject)) : Prop where
  performs : Performs io node log q after
  count : count = n + (lineMessages (δ := δ) (drain peer.session 1024).1).length
  inputs : log.map Prod.fst =
    messageInputs peer.conn.id world n (lineMessages (drain peer.session 1024).1)
  keys : PmcProcess.peerKeys after =
    setSession (PmcProcess.peerKeys cells) a (drain peer.session 1024).2.1

variable (io) in
/-- **The inner loop** comes to its end, and has served the lines. -/
theorem peerLines_serves (world : ℕ → ℤ → Bool) {fuel : ℕ} (n : ℕ)
    (represents : Represents p cells node) (member : (a, peer) ∈ cells)
    (enough : peer.session.buf.length < fuel) :
    ∃ q count log after, p.peerLines (δ := δ) io a world fuel n = some (q, count, log) ∧
      LinesServed io node cells a peer world n q count log after := by
  induction fuel generalizing n p cells node peer with
  | zero => exact absurd enough (Nat.not_lt_zero _)
  | succ fuel ih =>
  have nothing : ∀ flag, drain peer.session 1024 = ([], peer.session, flag) →
      LinesServed (δ := δ) io node cells a peer world n p n [] cells := by
    intro flag drained
    refine ⟨represents.performs, ?_, ?_, ?_⟩ <;> rw [drained]
    · rfl
    · rfl
    · exact (setSession_self represents.holds member).symm
  rw [PmcProcess.peerLines, represents.holds.object_eq member]
  simp only [Option.bind_eq_bind, Option.bind_some]
  cases popped : sessionPopLine peer.session 1024 with
  | noLine => exact ⟨p, n, [], cells, rfl, nothing true (drain_of_noLine popped)⟩
  | tooLong => exact ⟨p, n, [], cells, rfl, nothing false (drain_of_tooLong popped)⟩
  | line out rest =>
  obtain ⟨fed, keys, here⟩ := represents.setSession member rest
  have shorter : rest.buf.length < fuel :=
    Nat.lt_of_lt_of_le (sessionPopLine_lt popped) (Nat.le_of_lt_succ enough)
  have drained := drain_of_line popped
  simp only
  cases parsed : (lineParse out : Option (Message δ)) with
  | none =>
      obtain ⟨q, count, log, after, served, performs, counted, inputs, left⟩ :=
        ih n fed here shorter
      refine ⟨q, count, log, after, served, performs, ?_, ?_, ?_⟩
      · rw [counted, drained, lineMessages, lineMessages, List.filterMap_cons_none parsed]
      · rw [inputs, drained, lineMessages, lineMessages, List.filterMap_cons_none parsed]
      · rw [left, keys, drained, setSession_setSession]
  | some m =>
      obtain ⟨served, call, middle, serves, performs, kept⟩ :=
        serveLogged_performs fed here m (world n)
      have listed : (a, peer.conn.id, rest) ∈ PmcProcess.peerKeys middle := by
        rw [kept]
        exact List.mem_map_of_mem
          (f := fun cell : α × PeerObject => (cell.1, cell.2.conn.id, cell.2.session)) here
      obtain ⟨next, inMiddle, sameId, sameSession⟩ := mem_of_peerKeys listed
      obtain ⟨q, count, log, after, runs, more, counted, inputs, left⟩ :=
        ih (n + 1) performs.represents inMiddle (by rw [sameSession]; exact shorter)
      have lines : lineMessages (drain peer.session 1024).1 =
          m :: lineMessages (drain next.session 1024).1 := by
        rw [drained, sameSession]
        exact List.filterMap_cons_some parsed
      refine ⟨q, count, (.message peer.conn.id m (world n), call) :: log, after, ?_,
        performs.append more, ?_, ?_, ?_⟩
      · simp only [serves, Option.bind_some, runs, Option.pure_def]
      · rw [counted, lines, List.length_cons, Nat.add_right_comm, Nat.add_assoc]
      · rw [List.map_cons, inputs, lines, messageInputs, sameId]
      · rw [left, kept, keys, drained, sameSession, setSession_setSession]

/-! ## One event -/

/-- The connection at an address is gone. -/
def dropSession (keys : List (α × ℕ × Session)) (a : α) : List (α × ℕ × Session) :=
  keys.filter fun key => decide (key.1 ≠ a)

theorem dropSession_setSession (keys : List (α × ℕ × Session)) (a : α) (s : Session) :
    dropSession (setSession keys a s) a = dropSession keys a := by
  rw [dropSession, setSession, List.filter_map, dropSession]
  have same : keys.filter ((fun key : α × ℕ × Session => decide (key.1 ≠ a)) ∘
      fun key => if key.1 = a then (a, key.2.1, s) else key) =
        keys.filter fun key => decide (key.1 ≠ a) := by
    refine List.filter_congr fun key _ => ?_
    dsimp only [Function.comp_apply]
    by_cases here : key.1 = a
    · simp [here]
    · rw [if_neg here]
  rw [same]
  refine (List.map_congr_left fun key inKeys => ?_).trans (List.map_id _)
  exact if_neg (of_decide_eq_true (List.mem_filter.mp inKeys).2)

/-- A member of the keys has its session set. -/
theorem mem_setSession {keys : List (α × ℕ × Session)} {id : ℕ} {old : Session}
    (member : (a, id, old) ∈ keys) (s : Session) : (a, id, s) ∈ setSession keys a s :=
  List.mem_map.mpr ⟨_, member, if_pos rfl⟩

omit [DecidableEq α] in
theorem mem_peerKeys (member : (a, peer) ∈ cells) :
    (a, peer.conn.id, peer.session) ∈ PmcProcess.peerKeys cells :=
  List.mem_map_of_mem
    (f := fun cell : α × PeerObject => (cell.1, cell.2.conn.id, cell.2.session)) member

variable (io) in
/-- **A connection is closed** as the message machine disconnects it. -/
theorem Represents.close (represents : Represents p cells node) (member : (a, peer) ∈ cells) :
    ∃ q, p.closeConnection a = some q ∧
      Performs (δ := δ) io node [(.disconnect peer.conn.id, idleCall)] q
        (PmcProcess.removePeer cells a) ∧
      PmcProcess.peerKeys (PmcProcess.removePeer cells a) =
        dropSession (PmcProcess.peerKeys cells) a := by
  obtain ⟨q, closes, holds, aux, made⟩ := represents.holds.closeConnection member
  refine ⟨q, closes, Represents.single ⟨holds, aux.trans represents.aux,
    made.trans represents.made⟩ rfl, ?_⟩
  rw [PmcProcess.peerKeys, PmcProcess.removePeer, dropSession, PmcProcess.peerKeys,
    List.filter_map]
  rfl

/-- The session of a connection after an event, `none` when the event closes it. -/
def sessionAfter (s : Session) (reads : List Bytes) (last : ReadEnd) : Option Session :=
  if last = .again then (sessionReads s 1024 reads).2 else none

variable (io) in
/-- `handle_connected_peer` has served the messages that its reads deliver, and closed the
connection when it had to. -/
structure EventServed (node : PmcNode τ) (cells : List (α × PeerObject)) (a : α) (peer : PeerObject)
    (reads : List Bytes) (last : ReadEnd) (world : ℕ → ℤ → Bool) (n : ℕ) (q : PmcProcess α τ)
    (log : LoopLog δ) (after : List (α × PeerObject)) : Prop where
  performs : Performs io node log q after
  inputs : log.map Prod.fst =
    messageInputs peer.conn.id world n (lineMessages (sessionReads peer.session 1024 reads).1) ++
      (sessionAfter peer.session reads last).elim [.disconnect peer.conn.id] fun _ => []
  keys : PmcProcess.peerKeys after =
    (sessionAfter peer.session reads last).elim (dropSession (PmcProcess.peerKeys cells) a)
      (setSession (PmcProcess.peerKeys cells) a)

variable (io) in
/-- **An event of a peer** is handled to its end. -/
theorem peerReads_serves (last : ReadEnd) (world : ℕ → ℤ → Bool) (reads : List Bytes) (n : ℕ)
    (represents : Represents p cells node) (member : (a, peer) ∈ cells) :
    ∃ q log after, p.peerReads (δ := δ) io a last world reads n = some (q, log) ∧
      EventServed io node cells a peer reads last world n q log after := by
  induction reads generalizing n p cells node peer with
  | nil =>
      rw [PmcProcess.peerReads, represents.holds.object_eq member]
      simp only [Option.bind_eq_bind, Option.bind_some]
      by_cases isAgain : last = .again
      · rw [if_pos isAgain]
        refine ⟨p, [], cells, rfl, represents.performs, ?_, ?_⟩ <;>
          rw [sessionAfter, if_pos isAgain]
        · rfl
        · exact (setSession_self represents.holds member).symm
      · obtain ⟨q, closes, performs, keys⟩ := represents.close (δ := δ) io member
        rw [if_neg isAgain, closes]
        refine ⟨q, _, _, rfl, performs, ?_, ?_⟩ <;> rw [sessionAfter, if_neg isAgain]
        · rfl
        · exact keys
  | cons data reads ih =>
      rw [PmcProcess.peerReads, represents.holds.object_eq member]
      simp only [Option.bind_eq_bind, Option.bind_some]
      cases feeds : sessionFeed peer.session data with
      | none =>
          obtain ⟨q, closes, performs, keys⟩ := represents.close (δ := δ) io member
          have read : sessionReads peer.session 1024 (data :: reads) = ([], none) := by
            rw [sessionReads, feeds]
          have closed : sessionAfter peer.session (data :: reads) last = none := by
            rw [sessionAfter, read, ite_self]
          simp only [closes, Option.bind_some]
          refine ⟨q, _, _, rfl, performs, ?_, ?_⟩ <;> rw [closed]
          · rw [read]
            rfl
          · exact keys
      | some fed =>
          have read : sessionReads peer.session 1024 (data :: reads) =
              ((drain fed 1024).1 ++ (sessionReads (drain fed 1024).2.1 1024 reads).1,
                (sessionReads (drain fed 1024).2.1 1024 reads).2) := by
            rw [sessionReads, feeds]
          obtain ⟨put, keys, here⟩ := represents.setSession member fed
          obtain ⟨q, count, log, middle, served, lines⟩ :=
            peerLines_serves (δ := δ) io world n put here
              (Nat.lt_succ_of_le fed.length_le)
          obtain ⟨next, inMiddle, sameId, sameSession⟩ := mem_of_peerKeys
            (lines.keys ▸ mem_setSession (mem_peerKeys here) (drain fed 1024).2.1)
          obtain ⟨r, more, after, runs, event⟩ :=
            ih count lines.performs.represents inMiddle
          have outcome : sessionAfter peer.session (data :: reads) last =
              sessionAfter next.session reads last := by
            rw [sessionAfter, sessionAfter, read, sameSession]
          simp only [served, Option.bind_some, runs]
          refine ⟨r, log ++ more, after, rfl, lines.performs.append event.performs, ?_, ?_⟩
          · rw [outcome, List.map_append, lines.inputs, event.inputs, read, ← List.append_assoc,
              sameId, sameSession, lines.count, lineMessages, lineMessages, lineMessages,
              List.filterMap_append, messageInputs_append]
          · rw [outcome, event.keys, lines.keys, keys, setSession_setSession,
              dropSession_setSession]
            cases sessionAfter next.session reads last with
            | none => rfl
            | some s => exact setSession_setSession ..

/-! ## The run -/

/-- What a connection has read, by its number. -/
abbrev Heard := ℕ → List Bytes

/-- The reads of an event, for the connection that is next. -/
def noteHeard (s : Option (PmcLoop α τ)) (input : LoopInput α) (heard : Heard) : Heard :=
  match s, input with
  | some s, .peer reads _ _ =>
      (s.ready.head?.bind s.process.object).elim heard fun peer =>
        Function.update heard peer.conn.id (heard peer.conn.id ++ reads)
  | _, _ => heard

variable (io) in
/-- The loop with the reads of its connections. -/
def hearingLoop : Machine (Option (PmcLoop α τ) × Heard) (LoopInput α) (LoopLog δ) :=
  (pmcLoop io).withRecord noteHeard

/-- The message of an input, when it is one of this connection. -/
def inputMessage (id : ℕ) : PmcInput δ → Option (Message δ)
  | .message other m _ => if other = id then some m else none
  | .connect _ | .disconnect _ => none

/-- The messages of a connection among the inputs of the message machine. -/
def messagesOf (id : ℕ) (inputs : List (PmcInput δ)) : List (Message δ) :=
  inputs.filterMap (inputMessage id)

omit [DecidableEq α] [CDouble δ] in
theorem messagesOf_append (id : ℕ) (first second : List (PmcInput δ)) :
    messagesOf id (first ++ second) = messagesOf id first ++ messagesOf id second :=
  List.filterMap_append

omit [DecidableEq α] [CDouble δ] in
theorem messagesOf_messageInputs (id other : ℕ) (world : ℕ → ℤ → Bool) (n : ℕ)
    (messages : List (Message δ)) :
    messagesOf id (messageInputs other world n messages) =
      if other = id then messages else [] := by
  induction messages generalizing n with
  | nil => exact (ite_self _).symm
  | cons m rest ih =>
      have later := ih (n + 1)
      by_cases same : other = id
      · rw [if_pos same] at later ⊢
        have isIts : inputMessage id (.message other m (world n)) = some m := if_pos same
        rw [messageInputs, messagesOf, List.filterMap_cons_some isIts]
        exact congrArg _ later
      · rw [if_neg same] at later ⊢
        have notIts : inputMessage id (.message other m (world n)) = none := if_neg same
        rw [messageInputs, messagesOf, List.filterMap_cons_none notIts]
        exact later

/-- The messages of each connection so far. -/
def noteServed (_ : PmcNode τ) (input : PmcInput δ) (served : ℕ → List (Message δ)) :
    ℕ → List (Message δ) :=
  fun id => served id ++ messagesOf id [input]

variable (io) in
/-- The message machine with the messages of each connection. -/
def servingMachine : Machine (PmcNode τ × (ℕ → List (Message δ))) (PmcInput δ) PmcCall :=
  (pmcMachine io).withRecord noteServed

omit [DecidableEq α] in
theorem servingMachine_run (s : PmcNode τ × (ℕ → List (Message δ))) (inputs : List (PmcInput δ)) :
    (servingMachine io).run s inputs =
      ((pmcMachine io).run s.1 inputs, fun id => s.2 id ++ messagesOf id inputs) := by
  induction inputs generalizing s with
  | nil => exact Prod.ext rfl (funext fun id => (List.append_nil _).symm)
  | cons input rest ih =>
      refine (ih _).trans (Prod.ext rfl (funext fun id => ?_))
      change (s.2 id ++ messagesOf id [input]) ++ messagesOf id rest = _
      rw [List.append_assoc, ← messagesOf_append]
      rfl

/-- What holds between the events of a run: the process is the node, the events still to be handled
are of connections that are there, each once, and every connection has had the messages served that
its reads deliver, and keeps the session they leave. -/
structure LoopHolds (s : PmcLoop α τ) (heard : Heard) (node : PmcNode τ)
    (served : ℕ → List (Message δ)) (cells : List (α × PeerObject)) : Prop where
  represents : Represents s.process cells node
  distinct : s.ready.Nodup
  live : ∀ a ∈ s.ready, a ∈ cells.map Prod.fst
  sessions : ∀ key ∈ PmcProcess.peerKeys cells,
    (sessionReads sessionInit 1024 (heard key.2.1)).2 = some key.2.2
  messages : ∀ id, served id = lineMessages (sessionReads sessionInit 1024 (heard id)).1
  unheard : ∀ id, node.nextId ≤ id → heard id = []

variable {s : PmcLoop α τ} {heard : Heard} {served : ℕ → List (Message δ)}

omit [DecidableEq α] in
/-- The wait. -/
theorem LoopHolds.wait (holds : LoopHolds s heard node served cells) {ready : List α}
    (granted : Granted s (.wait ready)) :
    LoopHolds ⟨s.process, ready⟩ heard node served cells where
  represents := holds.represents
  distinct := granted.1
  live a inReady := by
    have watched := granted.2 a inReady
    rw [holds.represents.holds.watched, List.map_map] at watched
    exact watched
  sessions := holds.sessions
  messages := holds.messages
  unheard := holds.unheard

variable (io) in
/-- A new connection, or none. -/
theorem LoopHolds.accept (holds : LoopHolds s heard node served cells) {new : NewPeer α}
    (granted : Granted s (.accept new)) :
    ∃ q log after, loopStep (δ := δ) io s (.accept new) = some (⟨q, s.ready⟩, log) ∧
      (pmcMachine io).Logs node log ∧
      LoopHolds ⟨q, s.ready⟩ heard ((pmcMachine io).run node (log.map Prod.fst))
        (fun id => served id ++ messagesOf id (log.map Prod.fst)) after := by
  have represents := holds.represents
  have opens := PmcProcess.openPeer_holds represents.holds new granted.1 granted.2
  have closed : new.fd ∉ node.pmc.conns.map PmcConnection.fd := by
    rw [← represents.holds.openFds]
    exact granted.1
  have connects : ((pmcMachine io).step node (.connect new.fd : PmcInput δ)) =
      (node.connect new.fd closed, idleCall) := dif_pos closed
  have messages : ∀ log : List (PmcInput δ), (∀ id, messagesOf id log = []) → ∀ id,
      served id ++ messagesOf id log =
        lineMessages (sessionReads sessionInit 1024 (heard id)).1 := by
    intro log none id
    rw [none, List.append_nil, holds.messages]
  rw [loopStep]
  generalize s.process.openPeer new = result at opens
  cases opens with
  | refused =>
      refine ⟨s.process, [], cells, ?_, rfl, { holds with messages := messages [] fun _ => rfl }⟩
      simp only [Option.bind_eq_bind, Option.bind_some, if_true, Option.pure_def]
  | released q kept aux made =>
      have another : q.made ≠ s.process.made := by
        rw [made]
        exact Nat.succ_ne_self _
      have removed : pmcConnRemove (pmcConnAdd node.pmc.conns node.nextId new.fd) node.nextId =
          node.pmc.conns := by
        rw [pmcConnRemove, pmcConnAdd, List.filter_cons_of_neg (by simp)]
        refine List.filter_eq_self.mpr fun conn inList => decide_eq_true ?_
        exact Nat.ne_of_lt (node.fresh conn inList)
      have reached : (pmcMachine io).run node
          [(.connect new.fd : PmcInput δ), .disconnect s.process.made] =
            (node.connect new.fd closed).disconnect node.nextId := by
        rw [Machine.run_cons, connects, represents.made]
        rfl
      refine ⟨q, [(.connect new.fd, idleCall), (.disconnect s.process.made, idleCall)], cells,
        ?_, ?_, ?_⟩
      · simp only [Option.bind_eq_bind, Option.bind_some, if_neg another, Option.isSome_none,
          Bool.false_eq_true, if_false, Option.pure_def]
      · rw [Machine.Logs, List.map_cons, List.map_singleton, List.map_cons, List.map_singleton,
          Machine.outputs_cons, connects]
        rfl
      · change LoopHolds _ _ ((pmcMachine io).run node
          [(.connect new.fd : PmcInput δ), .disconnect s.process.made]) _ _
        rw [reached]
        refine ⟨⟨?_, aux.trans represents.aux, ?_⟩, holds.distinct, holds.live, holds.sessions,
          messages _ fun _ => rfl, fun id beyond => holds.unheard id (Nat.le_of_succ_le beyond)⟩
        · change q.Holds cells (pmcConnRemove (pmcConnAdd _ _ _) _)
          rw [removed]
          exact kept
        · exact made.trans (congrArg (· + 1) represents.made)
  | opened q a _ kept aux made =>
      have another : q.made ≠ s.process.made := by
        rw [made]
        exact Nat.succ_ne_self _
      refine ⟨q, [(.connect new.fd, idleCall)], (a, newPeerObject s.process.made new.fd) :: cells,
        ?_, ?_, ?_⟩
      · simp only [Option.bind_eq_bind, Option.bind_some, if_neg another, Option.isSome_some,
          if_true, Option.pure_def]
      · rw [Machine.Logs, List.map_singleton, List.map_singleton, Machine.outputs_cons, connects]
        rfl
      · change LoopHolds _ _ ((pmcMachine io).run node [(.connect new.fd : PmcInput δ)]) _ _
        rw [Machine.run_cons, connects]
        refine ⟨⟨?_, aux.trans represents.aux, ?_⟩, holds.distinct,
          fun b inReady => List.mem_cons_of_mem a (holds.live b inReady), ?_,
          messages _ fun _ => rfl, fun id beyond => holds.unheard id (Nat.le_of_succ_le beyond)⟩
        · change q.Holds _ (pmcConnAdd node.pmc.conns node.nextId new.fd)
          rw [← represents.made]
          exact kept
        · exact made.trans (congrArg (· + 1) represents.made)
        · intro key member
          rcases List.mem_cons.mp member with rfl | old
          · change (sessionReads sessionInit 1024 (heard s.process.made)).2 = some sessionInit
            rw [holds.unheard _ (Nat.le_of_eq represents.made.symm)]
            rfl
          · exact holds.sessions key old

variable (io) in
/-- The number of the next connection does not decrease. -/
theorem nextId_le (node : PmcNode τ) (inputs : List (PmcInput δ)) :
    node.nextId ≤ ((pmcMachine io).run node inputs).nextId := by
  refine Machine.invariant (I := fun later : PmcNode τ => node.nextId ≤ later.nextId)
    (fun later input before => ?_) (Nat.le_refl _) inputs
  cases input with
  | connect fd =>
      simp only [pmcMachine]
      split
      · exact Nat.le_succ_of_le before
      · exact before
  | message => exact before
  | disconnect => exact before

/-- The other connections are there after an event. -/
theorem EventServed.live {reads : List Bytes} {last : ReadEnd} {world : ℕ → ℤ → Bool} {n : ℕ}
    {log : LoopLog δ} (event : EventServed io node cells a peer reads last world n q log after)
    {b : α} (differs : b ≠ a) (live : b ∈ cells.map Prod.fst) : b ∈ after.map Prod.fst := by
  have addresses : after.map Prod.fst = (PmcProcess.peerKeys after).map Prod.fst := by
    rw [PmcProcess.peerKeys, List.map_map]
    rfl
  obtain ⟨cell, inCells, rfl⟩ := List.mem_map.mp live
  have inKeys : (cell.1, cell.2.conn.id, cell.2.session) ∈ PmcProcess.peerKeys cells :=
    mem_peerKeys inCells
  rw [addresses, event.keys]
  cases sessionAfter peer.session reads last with
  | none =>
      exact List.mem_map_of_mem (f := Prod.fst)
        (List.mem_filter.mpr ⟨inKeys, decide_eq_true differs⟩)
  | some t =>
      exact List.mem_map.mpr ⟨_, List.mem_map.mpr ⟨_, inKeys, if_neg differs⟩, rfl⟩

/-- After an event every connection has the session that its reads leave. -/
theorem EventServed.sessions {reads : List Bytes} {last : ReadEnd} {world : ℕ → ℤ → Bool} {n : ℕ}
    {log : LoopLog δ} (event : EventServed io node cells a peer reads last world n q log after)
    (holds : p.Holds cells node.pmc.conns) (member : (a, peer) ∈ cells)
    (sessions : ∀ key ∈ PmcProcess.peerKeys cells,
      (sessionReads sessionInit 1024 (heard key.2.1)).2 = some key.2.2) :
    ∀ key ∈ PmcProcess.peerKeys after, (sessionReads sessionInit 1024
      (Function.update heard peer.conn.id (heard peer.conn.id ++ reads) key.2.1)).2 =
        some key.2.2 := by
  -- Another connection has another number.
  have others : ∀ key ∈ PmcProcess.peerKeys cells, key.1 ≠ a → key.2.1 ≠ peer.conn.id := by
    rintro ⟨b, id, session⟩ inKeys differs rfl
    obtain ⟨other, inCells, sameId, _⟩ := mem_of_peerKeys inKeys
    exact differs (congrArg Prod.fst (holds.eq_of_id inCells member sameId))
  intro key inKeys
  rw [event.keys] at inKeys
  cases outcome : sessionAfter peer.session reads last with
  | none =>
      rw [outcome] at inKeys
      obtain ⟨old, differs⟩ := List.mem_filter.mp inKeys
      rw [Function.update_of_ne (others key old (of_decide_eq_true differs))]
      exact sessions key old
  | some t =>
      rw [outcome] at inKeys
      obtain ⟨old, inOld, same⟩ := List.mem_map.mp inKeys
      by_cases here : old.1 = a
      · rw [if_pos here] at same
        subst same
        have inKeys : (a, old.2.1, old.2.2) ∈ PmcProcess.peerKeys cells := by
          rw [← here]
          exact inOld
        obtain ⟨other, inCells, isPeer, _⟩ := mem_of_peerKeys inKeys
        cases holds.eq_of_address inCells member rfl
        have left : (sessionReads peer.session 1024 reads).2 = some t := by
          rw [sessionAfter] at outcome
          split at outcome
          · exact outcome
          · cases outcome
        rw [← isPeer, Function.update_self,
          sessionReads_append (sessions _ (mem_peerKeys member)) reads, left]
      · rw [if_neg here] at same
        subst same
        rw [Function.update_of_ne (others old inOld here)]
        exact sessions old inOld

/-- After an event every connection has had the messages served that its reads deliver. -/
theorem EventServed.messages {reads : List Bytes} {last : ReadEnd} {world : ℕ → ℤ → Bool} {n : ℕ}
    {log : LoopLog δ} (event : EventServed io node cells a peer reads last world n q log after)
    (kept : (sessionReads sessionInit 1024 (heard peer.conn.id)).2 = some peer.session)
    (messages : ∀ id, served id = lineMessages (sessionReads sessionInit 1024 (heard id)).1)
    (id : ℕ) : served id ++ messagesOf id (log.map Prod.fst) = lineMessages
      (sessionReads sessionInit 1024
        (Function.update heard peer.conn.id (heard peer.conn.id ++ reads) id)).1 := by
  have quiet : messagesOf id ((sessionAfter peer.session reads last).elim
      [(.disconnect peer.conn.id : PmcInput δ)] fun _ => []) = [] := by
    cases sessionAfter peer.session reads last <;> rfl
  rw [event.inputs, messagesOf_append, messagesOf_messageInputs, quiet, List.append_nil, messages]
  by_cases same : peer.conn.id = id
  · subst same
    rw [if_pos rfl, Function.update_self, sessionReads_append kept reads, lineMessages,
      lineMessages, lineMessages, List.filterMap_append]
  · rw [if_neg same, Function.update_of_ne (Ne.symm same), List.append_nil]

/-- An event of the peer that is next. -/
theorem LoopHolds.event (holds : LoopHolds s heard node served cells) (reads : List Bytes)
    (last : ReadEnd) (world : ℕ → ℤ → Bool) :
    ∃ t log after, loopStep (δ := δ) io s (.peer reads last world) = some (t, log) ∧
      (pmcMachine io).Logs node log ∧
      LoopHolds t (noteHeard (some s) (.peer reads last world) heard)
        ((pmcMachine io).run node (log.map Prod.fst))
        (fun id => served id ++ messagesOf id (log.map Prod.fst)) after := by
  obtain ⟨process, ready⟩ := s
  cases ready with
  | nil =>
      refine ⟨_, [], cells, rfl, rfl, { holds with messages := fun id => ?_ }⟩
      exact (List.append_nil _).trans (holds.messages id)
  | cons a ready =>
  obtain ⟨peer, member⟩ : ∃ peer, (a, peer) ∈ cells := by
    obtain ⟨⟨_, peer⟩, member, rfl⟩ := List.mem_map.mp (holds.live a List.mem_cons_self)
    exact ⟨peer, member⟩
  have cellsHold := holds.represents.holds
  obtain ⟨q, log, after, handled, event⟩ :=
    peerReads_serves (δ := δ) io last world reads 0 holds.represents member
  obtain ⟨notAgain, distinct⟩ := List.nodup_cons.mp holds.distinct
  have hears : noteHeard (some ⟨process, a :: ready⟩) (.peer reads last world) heard =
      Function.update heard peer.conn.id (heard peer.conn.id ++ reads) := by
    change (process.object a).elim heard _ = _
    rw [cellsHold.object_eq member]
    rfl
  refine ⟨⟨q, ready⟩, log, after, ?_, event.performs.logs, event.performs.represents, distinct,
    ?_, ?_, ?_, ?_⟩
  · simp only [loopStep, handled, Option.bind_eq_bind, Option.bind_some, Option.pure_def]
  · intro b inReady
    have differs : b ≠ a := by
      rintro rfl
      exact notAgain inReady
    exact event.live differs (holds.live b (List.mem_cons_of_mem a inReady))
  · rw [hears]
    exact event.sessions cellsHold member holds.sessions
  · rw [hears]
    exact event.messages (holds.sessions _ (mem_peerKeys member)) holds.messages
  · intro id beyond
    have before := Nat.le_trans (nextId_le io node (log.map Prod.fst)) beyond
    have numbered := cellsHold.fresh _ (cellsHold.mem_conns member)
    rw [holds.represents.made] at numbered
    rw [hears, Function.update_of_ne (Nat.ne_of_gt (Nat.lt_of_lt_of_le numbered before))]
    exact holds.unheard id before

/-- The loop and the message machine, each with its record. -/
def LoopRelated (k : Option (PmcLoop α τ) × Heard) (s : PmcNode τ × (ℕ → List (Message δ))) :
    Prop :=
  ∃ t cells, k.1 = some t ∧ LoopHolds t k.2 s.1 s.2 cells

variable (io) in
/-- **Every step of the loop** is a log of the message machine, and keeps what holds. -/
theorem loopStep_refines (k : Option (PmcLoop α τ) × Heard)
    (node : PmcNode τ × (ℕ → List (Message δ))) (input : LoopInput α)
    (related : LoopRelated k node) (granted : ∀ t, k.1 = some t → Granted t input) :
    LoopRelated ((hearingLoop (δ := δ) io).step k input).1
        ((servingMachine io).run node (((hearingLoop io).step k input).2.map Prod.fst)) ∧
      (servingMachine io).Logs node ((hearingLoop io).step k input).2 := by
  obtain ⟨_, heard⟩ := k
  obtain ⟨s, cells, rfl, holds⟩ := related
  have allowed := granted s rfl
  -- What is left to show once the step is known.
  obtain ⟨t, log, after, steps, logs, next⟩ : ∃ t log after,
      loopStep io s input = some (t, log) ∧ (pmcMachine io).Logs node.1 log ∧
        LoopHolds t (noteHeard (some s) input heard)
          ((pmcMachine io).run node.1 (log.map Prod.fst))
          (fun id => node.2 id ++ messagesOf id (log.map Prod.fst)) after := by
    cases input with
    | wait ready =>
        refine ⟨_, [], cells, rfl, rfl, { holds.wait allowed with messages := fun id => ?_ }⟩
        exact (List.append_nil _).trans (holds.messages id)
    | accept new =>
        obtain ⟨q, log, after, steps, logs, next⟩ := holds.accept io allowed
        exact ⟨_, log, after, steps, logs, next⟩
    | peer reads last world => exact holds.event reads last world
  have moved : (hearingLoop io).step (some s, heard) input =
      ((some t, noteHeard (some s) input heard), log) := by
    simp only [hearingLoop, Machine.withRecord, pmcLoop, Option.bind_some, steps,
      Option.elim_some]
  rw [moved, servingMachine_run]
  refine ⟨⟨t, after, rfl, next⟩, ?_⟩
  rw [Machine.Logs, servingMachine, Machine.withRecord_outputs]
  exact logs

variable (δ) in
/-- The loop once `connect_to_eqd` has returned. -/
def loopStart (aux : Aux τ) (new : NewPeer α) (writeOk : ℤ → Bool) : Option (PmcLoop α τ) :=
  ((PmcProcess.start aux).connectToEqd δ new writeOk).map fun connected => ⟨connected.1, []⟩

theorem loopStart_related {aux : Aux τ} {new : NewPeer α} {writeOk : ℤ → Bool}
    (connects : (loopStart δ aux new writeOk).isSome) :
    LoopRelated (δ := δ) (loopStart δ aux new writeOk, fun _ => [])
      (pmcEnter new.fd aux, fun _ => []) := by
  rw [loopStart] at connects ⊢
  cases connected : (PmcProcess.start aux).connectToEqd δ new writeOk with
  | none =>
      rw [connected] at connects
      cases connects
  | some result =>
      obtain ⟨q, wrote⟩ := result
      obtain ⟨a, holds, sameAux, made⟩ := PmcProcess.connectToEqd_holds aux connected
      refine ⟨⟨q, []⟩, _, rfl, ⟨holds, sameAux, made⟩, List.nodup_nil,
        fun _ none => absurd none List.not_mem_nil, ?_, fun _ => rfl, fun _ _ => rfl⟩
      intro key inKeys
      cases List.mem_singleton.mp inKeys
      rfl

variable (δ) in
/-- The system calls keep what they promise along a run of the loop. -/
def GrantedRun (io : SerialPort τ) (start : Option (PmcLoop α τ)) (inputs : List (LoopInput α)) :
    Prop :=
  (pmcLoop (δ := δ) io).Along (fun k input => ∀ s, k = some s → Granted s input) start inputs

variable (δ) in
/-- What a run of the loop does. -/
def runLog (io : SerialPort τ) (start : Option (PmcLoop α τ)) (inputs : List (LoopInput α)) :
    LoopLog δ :=
  ((pmcLoop io).outputs start inputs).flatten

variable (δ) in
/-- What each connection has read in a run. -/
def runHeard (io : SerialPort τ) (start : Option (PmcLoop α τ)) (inputs : List (LoopInput α)) :
    Heard :=
  ((hearingLoop (δ := δ) io).run (start, fun _ => []) inputs).2

/-- A run of the loop is one of the message machine. -/
theorem loop_refines {aux : Aux τ} {new : NewPeer α} {writeOk : ℤ → Bool}
    (connects : (loopStart δ aux new writeOk).isSome) {inputs : List (LoopInput α)}
    (granted : GrantedRun δ io (loopStart δ aux new writeOk) inputs) :
    ∃ s cells, (pmcLoop (δ := δ) io).run (loopStart δ aux new writeOk) inputs = some s ∧
      LoopHolds s (runHeard δ io (loopStart δ aux new writeOk) inputs)
        ((pmcMachine io).run (pmcEnter new.fd aux)
          ((runLog δ io (loopStart δ aux new writeOk) inputs).map Prod.fst))
        (fun id => messagesOf id
          ((runLog δ io (loopStart δ aux new writeOk) inputs).map Prod.fst)) cells ∧
      (pmcMachine io).Logs (pmcEnter new.fd aux)
        (runLog δ io (loopStart δ aux new writeOk) inputs) := by
  have along := (Machine.withRecord_along noteHeard
    (s := (loopStart δ aux new writeOk, fun _ => []))).mpr granted
  obtain ⟨⟨s, cells, reached, holds⟩, logs⟩ := Machine.run_refines (loopStep_refines io)
    (loopStart_related connects) along
  rw [hearingLoop, Machine.withRecord_run] at reached
  rw [servingMachine_run] at holds
  simp only [hearingLoop, Machine.withRecord_outputs] at holds
  rw [servingMachine, hearingLoop, Machine.withRecord_outputs, Machine.Logs,
    Machine.withRecord_outputs] at logs
  exact ⟨s, cells, reached, holds, logs⟩

/-- **The loop never touches an object that is not there.** In every run in which the system calls
keep their promises, every pointer that is used is that of an allocated object and none is released
twice. After it, exactly the connections in the list from `g_head` are allocated, exactly their
descriptors are open, each once, and exactly they are watched, each by its own pointer. -/
theorem loop_memory_safe (io : SerialPort τ) {aux : Aux τ} {new : NewPeer α} {writeOk : ℤ → Bool}
    (connects : (loopStart δ aux new writeOk).isSome) {inputs : List (LoopInput α)}
    (granted : GrantedRun δ io (loopStart δ aux new writeOk) inputs) :
    ∃ s cells, (pmcLoop (δ := δ) io).run (loopStart δ aux new writeOk) inputs = some s ∧
      Owned s.process.store cells ∧
      s.process.openFds = cells.map (fun cell => cell.2.conn.fd) ∧ s.process.openFds.Nodup ∧
      s.process.watched = cells.map fun cell => (cell.2.conn.fd, cell.1) := by
  obtain ⟨s, cells, reached, holds, _⟩ := loop_refines connects granted
  have kept := holds.represents.holds
  refine ⟨s, cells, reached, kept.owned, ?_, ?_, kept.watched⟩
  · rw [kept.openFds, ← kept.listed, List.map_map]
    rfl
  · rw [kept.openFds]
    exact kept.distinctFds

/-- The loop with equipmentd on descriptor 4, its object at address 100. -/
def eqdConnected : Option (PmcLoop ℕ AuxDevice) :=
  loopStart ℚ ⟨plantCfg, ⟨false, []⟩⟩ ⟨4, true, some 100, true⟩ fun _ => true

/-- A simulator connects, sends two lines in three pieces and hangs up; another one gets its
descriptor and its address. -/
def simComesAndGoes : List (LoopInput ℕ) :=
  [.accept ⟨5, true, some 200, true⟩, .wait [200],
    .peer [ascii "EVT REGIS", ascii "TER dev=1\nEVT STA", ascii "TUS dev=1 state=IDLE\n"] .ended
      fun _ _ => true,
    .accept ⟨5, true, some 200, true⟩]

theorem simComesAndGoes_granted : GrantedRun ℚ auxDevicePort eqdConnected simComesAndGoes := by
  refine ⟨?_, ?_, ?_, ?_, trivial⟩
  · rintro s ⟨⟩
    exact ⟨by decide, fun a given => by cases given; rfl⟩
  · rintro s ⟨⟩
    exact ⟨by decide, by decide⟩
  · rintro s ⟨⟩
    trivial
  · rintro s ⟨⟩
    exact ⟨by decide, fun a given => by cases given; rfl⟩

/-- An address that is used again. -/
theorem loop_memory_safe_reused :
    ∃ s cells, (pmcLoop (δ := ℚ) auxDevicePort).run eqdConnected simComesAndGoes = some s ∧
      Owned s.process.store cells ∧
      s.process.openFds = cells.map (fun cell => cell.2.conn.fd) ∧ s.process.openFds.Nodup ∧
      s.process.watched = cells.map fun cell => (cell.2.conn.fd, cell.1) :=
  loop_memory_safe auxDevicePort rfl simComesAndGoes_granted

/-- **The loop serves what it reads.** In every run in which the system calls keep their promises,
the loop does what the message machine does on the messages it logs: the same is written, the aux
session and the connections in memory are the same. These messages are, for each connection, those
that its own reads deliver, whatever else is read in between. When its lines and its tail are
shorter than the line buffer, they are those of the lines of its stream, however it was cut. -/
theorem loop_serves_frames (io : SerialPort τ) {aux : Aux τ} {new : NewPeer α} {writeOk : ℤ → Bool}
    (connects : (loopStart δ aux new writeOk).isSome) {inputs : List (LoopInput α)}
    (granted : GrantedRun δ io (loopStart δ aux new writeOk) inputs) :
    let log := runLog δ io (loopStart δ aux new writeOk) inputs
    let heard := runHeard δ io (loopStart δ aux new writeOk) inputs
    let node := (pmcMachine io).run (pmcEnter new.fd aux) (log.map Prod.fst)
    (∃ s cells, (pmcLoop (δ := δ) io).run (loopStart δ aux new writeOk) inputs = some s ∧
      Listed s.process.store cells ∧ (cells.map fun cell => cell.2.conn) = node.pmc.conns ∧
      s.process.aux = node.pmc.aux) ∧
    log.map Prod.snd = (pmcMachine io).outputs (pmcEnter new.fd aux) (log.map Prod.fst) ∧
    ∀ id, messagesOf id (log.map Prod.fst) =
        lineMessages (sessionReads sessionInit 1024 (heard id)).1 ∧
      (Fits 10 1024 (heard id).flatten → (∀ data ∈ heard id, data.length ≤ 1024) →
        messagesOf id (log.map Prod.fst) = lineMessages (frames 10 (heard id).flatten).1) := by
  obtain ⟨s, cells, reached, holds, logs⟩ := loop_refines connects granted
  have kept := holds.represents.holds
  refine ⟨⟨s, cells, reached, kept.owned.toListed, kept.listed, holds.represents.aux⟩, logs,
    fun id => ⟨holds.messages id, fun fits readable => ?_⟩⟩
  obtain ⟨left, received, _⟩ := receive_of_fits (by decide) (Nat.le_refl 1024)
    (runHeard δ io (loopStart δ aux new writeOk) inputs id) readable sessionInit
    (by simp [sessionInit]) fits
  rw [holds.messages, sessionReads_of_receive received]
  rfl

/-- The two lines of the simulator. -/
theorem loop_serves_frames_sim :
    messagesOf 1 ((runLog ℚ auxDevicePort eqdConnected simComesAndGoes).map Prod.fst) =
      lineMessages (frames 10 (ascii "EVT REGISTER dev=1\nEVT STATUS dev=1 state=IDLE\n")).1 := by
  have heard : runHeard ℚ auxDevicePort eqdConnected simComesAndGoes 1 =
      [ascii "EVT REGIS", ascii "TER dev=1\nEVT STA", ascii "TUS dev=1 state=IDLE\n"] := rfl
  obtain ⟨_, _, served⟩ := loop_serves_frames (δ := ℚ) auxDevicePort rfl simComesAndGoes_granted
  have framed := (served 1).2
  rw [show runHeard ℚ auxDevicePort (loopStart ℚ ⟨plantCfg, ⟨false, []⟩⟩ ⟨4, true, some 100, true⟩
    fun _ => true) simComesAndGoes 1 = _ from heard] at framed
  exact framed (by unfold Fits; decide) (by decide)

end Loop

end EquipmentControl
