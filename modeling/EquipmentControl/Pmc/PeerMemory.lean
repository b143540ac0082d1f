import EquipmentControl.Library.LinkedList
import EquipmentControl.Pmc.InterlockRuns
import EquipmentControl.Protocol.Session

/-!
# The connections of the process controller in memory

`pmc_connection.c` and the functions of `main.c` and `pmc_router.c` (`nodes/pmc/src`) that work on
connections, on the objects that `malloc` gives out: each has an address and a `next` pointer, the
list starts at `g_head`, and addresses are used again after `free`. A function fails where it would
use an object that is not allocated, or free one twice.

A process holds a list of connections when its memory consists of one object for each, linked in
this order, its open descriptors are theirs, and epoll watches each of them with its address
(`PmcProcess.Holds`). On such a process every function does what it does on the list:
`PmcProcess.openPeer_holds` and `closeConnection_holds` for connections that come and go, and
`serveMessage_holds` for a message of a peer, which `pmcServeMessage` serves on the list.
-/

set_option autoImplicit false

namespace EquipmentControl

open LinkedList

/-- The object of a connection, without its `next`. The `id` of the connection is the number of the
object in the order they were made, which no function reads. -/
structure PeerObject where
  conn : PmcConnection
  session : Session

/-- The object of a new connection once `memset` and the assignments after it have filled it in. -/
def newPeerObject (number : ℕ) (fd : ℤ) : PeerObject :=
  ⟨⟨number, fd, .unknown, false, -1, .empty 31, false⟩, sessionInit⟩

/-- The process: the objects from `g_head` on, the descriptors of peers that are open, what epoll
watches (a descriptor and the pointer it reports), the aux session, and the number of objects made
so far. -/
structure PmcProcess (α τ : Type) where
  store : Store α PeerObject
  openFds : List ℤ
  watched : List (ℤ × α)
  aux : Aux τ
  made : ℕ

/-- What the system calls for a new connection return: the descriptor, whether `set_nonblocking`
succeeds, the address from `malloc`, and whether `epoll_ctl` succeeds. -/
structure NewPeer (α : Type) where
  fd : ℤ
  nonblocking : Bool
  address : Option α
  watches : Bool

namespace PmcProcess

variable {α δ τ : Type}

/-- The process before it is connected to equipmentd. -/
def start (aux : Aux τ) : PmcProcess α τ := ⟨⟨fun _ => none, none⟩, [], [], aux, 0⟩

/-- A use of the object at an address. -/
def object (p : PmcProcess α τ) (a : α) : Option PeerObject := (p.store.heap a).map Cell.value

/-- A use of the object at a pointer that may be null. -/
def deref (p : PmcProcess α τ) : Option α → Option (Option PeerObject)
  | none => some none
  | some a => (p.object a).map some

/-- A walk along the list ends after a round for each object made and one more. -/
def search (p : PmcProcess α τ) (meets : PmcConnection → Bool) : Option (Option α) :=
  p.store.findLoop (fun peer => meets peer.conn) (p.made + 1) p.store.head

/-- `pmc_find_eqd`. -/
def findEqd (p : PmcProcess α τ) : Option (Option α) :=
  p.search fun conn => conn.registered && decide (conn.type = .eqd)

/-- `pmc_find_sim`. -/
def findSim (p : PmcProcess α τ) (devId : Int32) : Option (Option α) :=
  p.search fun conn => conn.registered && decide (conn.type = .sim) && decide (conn.devId = devId)

/-- `close` of a descriptor. -/
def closeFd (p : PmcProcess α τ) (fd : ℤ) : PmcProcess α τ :=
  { p with openFds := p.openFds.filter fun other => decide (other ≠ fd) }

/-- `epoll_ctl` with `EPOLL_CTL_DEL`. -/
def unwatch (p : PmcProcess α τ) (fd : ℤ) : PmcProcess α τ :=
  { p with watched := p.watched.filter fun other => decide (other.1 ≠ fd) }

section Functions

variable [DecidableEq α]

/-- The fields of an object are written. -/
def put (p : PmcProcess α τ) (a : α) (peer : PeerObject) : PmcProcess α τ :=
  { p with store := p.store.set a peer }

/-- `pmc_conn_add` of the object of a new connection. -/
def connAdd (p : PmcProcess α τ) (a : α) (fd : ℤ) : PmcProcess α τ :=
  { p with
    store := p.store.push a (newPeerObject p.made fd)
    made := p.made + 1 }

/-- `pmc_conn_remove`. -/
def connRemove (p : PmcProcess α τ) (a : α) : Option (PmcProcess α τ) :=
  (p.store.unlinkLoop a (p.made + 1) .head).map fun store => { p with store := store }

def free (p : PmcProcess α τ) (a : α) : Option (PmcProcess α τ) :=
  if (p.store.heap a).isSome then some { p with store := p.store.free a } else none

/-- `close_connection`. -/
def closeConnection (p : PmcProcess α τ) (a : α) : Option (PmcProcess α τ) := do
  let peer ← p.object a
  let q ← ((p.unwatch peer.conn.fd).closeFd peer.conn.fd).connRemove a
  q.free a

/-- What `connect_to_eqd` and the accept loop do with a new descriptor: the process, and the address
of the connection when there is one. -/
def openPeer (p : PmcProcess α τ) (new : NewPeer α) :
    Option (PmcProcess α τ × Option α) :=
  let opened := { p with openFds := new.fd :: p.openFds }
  if !new.nonblocking then some (opened.closeFd new.fd, none)
  else
    match new.address with
    | none => some (opened.closeFd new.fd, none)
    | some a =>
        let added := opened.connAdd a new.fd
        if new.watches then
          some ({ added with watched := (new.fd, a) :: added.watched }, some a)
        else do
          let q ← added.connRemove a
          let r ← (q.closeFd new.fd).free a
          return (r, none)

/-- The state in a STATUS of the sim at an address is kept in its object. -/
def reportState (p : PmcProcess α τ) (a : α) (sim : PeerObject) (m : Message δ) :
    PmcProcess α τ :=
  match m.type, m.state with
  | .status, some state =>
      p.put a { sim with conn := { sim.conn with state := state, hasState := true } }
  | _, _ => p

section Messages

variable [CDouble δ] (io : SerialPort τ)

variable (δ) in
/-- `connect_to_eqd`: the process when it is connected, and what it writes. -/
def connectToEqd (p : PmcProcess α τ) (new : NewPeer α) (writeOk : ℤ → Bool) :
    Option (PmcProcess α τ × Option (ℤ × Bytes)) := do
  match ← p.openPeer new with
  | (_, none) => none
  | (q, some a) =>
      let peer ← q.object a
      let register : Message δ := { role := .req, type := .register, seq := some 1 }
      let line := if writeOk new.fd then lineFormat register 256 else none
      return (q.put a { peer with conn :=
        { peer.conn with type := .eqd, registered := true, devId := -1 } }, line.map (new.fd, ·))

/-- The part of `pmc_route_message` for messages from equipmentd: the process, and what is written
where. -/
def routeEqd (p : PmcProcess α τ) (eqd : PeerObject) (m : Message δ) (writeOk : ℤ → Bool) :
    Option (PmcProcess α τ × Option (ℤ × Bytes)) := do
  let target ← m.dev.elim (some none) fun dev => p.findSim dev.toInt32
  let sim ← p.deref target
  let answer (aux : Aux τ) (reply : Message δ) :=
    some ({ p with aux := aux }, pmcIoSendMessage eqd.conn.fd reply writeOk)
  match pmcSequenceDecideEqdRequest (sim.map PeerObject.conn) m with
  | .rejectMissingDev => answer p.aux (pmcErrorMessage m 400 (ascii "MISSING_DEV"))
  | .rejectSimNotFound => answer p.aux (pmcErrorMessage m 404 (ascii "SIM_NOT_FOUND"))
  | .respondCachedStatus sim =>
      let snapshot : AuxSnapshot δ × Aux τ := readAuxSnapshot io sim.devId p.aux
      answer snapshot.2 (pmcStatusMessage m sim snapshot.1)
  | .rejectInterlock => answer p.aux (pmcErrorMessage m 409 (ascii "PMC_INTERLOCK_BLOCKED"))
  | .routeToSim sim =>
      match applyAuxForCommand io (m.dev.getD 0).toInt32 m.type p.aux with
      | (.error text, aux) =>
          answer aux (pmcErrorMessage m 502 (if text = [] then ascii "PICO_IO_FAILED" else text))
      | (.ok _, aux) =>
          match pmcIoSendMessage sim.fd m writeOk with
          | none => answer aux (pmcErrorMessage m 500 (ascii "SIM_CMD_FAILED"))
          | some wrote => some ({ p with aux := aux }, some wrote)

/-- The part of `pmc_route_message` for messages from the sim at an address. -/
def routeSim (p : PmcProcess α τ) (a : α) (sim : PeerObject) (m : Message δ)
    (writeOk : ℤ → Bool) : Option (PmcProcess α τ × Option (ℤ × Bytes)) := do
  let q := p.reportState a sim m
  let target ← q.findEqd
  let eqd ← q.deref target
  return (q, eqd.bind fun eqd => pmcIoSendMessage eqd.conn.fd m writeOk)

/-- What the loop of `handle_connected_peer` does with a message of the peer at an address. -/
def serveMessage (p : PmcProcess α τ) (a : α) (m : Message δ) (writeOk : ℤ → Bool) :
    Option (PmcProcess α τ × Option (ℤ × Bytes)) := do
  let peer ← p.object a
  if !peer.conn.registered then
    match pmcHandleRegister peer.conn m with
    | some registered => return (p.put a { peer with conn := registered }, none)
    | none => return (p, none)
  else if m.type = .register then return (p, none)
  else
    match peer.conn.type with
    | .eqd => p.routeEqd io peer m writeOk
    | .sim => p.routeSim a peer m writeOk
    | .unknown => return (p, none)

end Messages

end Functions

/-! ## The list it holds -/

/-- A process holds a list of connections, in these cells. -/
structure Holds (p : PmcProcess α τ) (cells : List (α × PeerObject))
    (conns : List PmcConnection) : Prop where
  owned : Owned p.store cells
  listed : (cells.map fun cell => cell.2.conn) = conns
  openFds : p.openFds = conns.map PmcConnection.fd
  watched : p.watched = cells.map fun cell => (cell.2.conn.fd, cell.1)
  fresh : ∀ conn ∈ conns, conn.id < p.made
  distinctIds : (conns.map PmcConnection.id).Nodup
  distinctFds : (conns.map PmcConnection.fd).Nodup

/-- The cells when the object at an address is written. -/
def updatePeer [DecidableEq α] (cells : List (α × PeerObject)) (a : α) (peer : PeerObject) :
    List (α × PeerObject) :=
  cells.map fun cell => if cell.1 = a then (a, peer) else cell

/-- The cells when the object at an address is released. -/
def removePeer [DecidableEq α] (cells : List (α × PeerObject)) (a : α) : List (α × PeerObject) :=
  cells.filter fun cell => decide (cell.1 ≠ a)

/-- What stays when a message is served: the addresses, the numbers and the sessions. -/
def peerKeys (cells : List (α × PeerObject)) : List (α × ℕ × Session) :=
  cells.map fun cell => (cell.1, cell.2.conn.id, cell.2.session)

namespace Holds

variable {p : PmcProcess α τ} {cells : List (α × PeerObject)} {conns : List PmcConnection}

theorem length_lt (holds : p.Holds cells conns) : cells.length < p.made + 1 := by
  have numbered : conns.map PmcConnection.id ⊆ List.range p.made := by
    intro id member
    obtain ⟨conn, listed, rfl⟩ := List.mem_map.mp member
    exact List.mem_range.mpr (holds.fresh conn listed)
  have bound := (List.subperm_of_subset holds.distinctIds numbered).length_le
  rw [List.length_map, List.length_range, ← holds.listed, List.length_map] at bound
  exact Nat.lt_succ_of_le bound

theorem withAux (holds : p.Holds cells conns) (aux : Aux τ) :
    ({ p with aux := aux } : PmcProcess α τ).Holds cells conns :=
  ⟨holds.owned, holds.listed, holds.openFds, holds.watched, holds.fresh, holds.distinctIds,
    holds.distinctFds⟩

/-- The object of a cell is allocated. -/
theorem object_eq (holds : p.Holds cells conns) {a : α} {peer : PeerObject}
    (member : (a, peer) ∈ cells) : p.object a = some peer :=
  holds.owned.value member

theorem mem_conns (holds : p.Holds cells conns) {a : α} {peer : PeerObject}
    (member : (a, peer) ∈ cells) : peer.conn ∈ conns := by
  rw [← holds.listed]
  exact List.mem_map_of_mem (f := fun cell : α × PeerObject => cell.2.conn) member

/-- A cell is known by its address, by its number and by its descriptor. -/
theorem eq_of_address (holds : p.Holds cells conns) {first second : α × PeerObject}
    (one : first ∈ cells) (two : second ∈ cells) (same : first.1 = second.1) : first = second :=
  List.inj_on_of_nodup_map holds.owned.distinct one two same

theorem eq_of_id (holds : p.Holds cells conns) {first second : α × PeerObject}
    (one : first ∈ cells) (two : second ∈ cells)
    (same : first.2.conn.id = second.2.conn.id) : first = second := by
  have distinct := holds.distinctIds
  rw [← holds.listed, List.map_map] at distinct
  exact List.inj_on_of_nodup_map distinct one two same

theorem eq_of_fd (holds : p.Holds cells conns) {first second : α × PeerObject}
    (one : first ∈ cells) (two : second ∈ cells)
    (same : first.2.conn.fd = second.2.conn.fd) : first = second := by
  have distinct := holds.distinctFds
  rw [← holds.listed, List.map_map] at distinct
  exact List.inj_on_of_nodup_map distinct one two same

theorem pmcFindConn_eq (holds : p.Holds cells conns) {a : α} {peer : PeerObject}
    (member : (a, peer) ∈ cells) : pmcFindConn conns peer.conn.id = some peer.conn := by
  have listed := holds.mem_conns member
  cases found : pmcFindConn conns peer.conn.id with
  | none =>
      have absent := List.find?_eq_none.mp found peer.conn listed
      simp at absent
  | some conn =>
      obtain ⟨inList, same⟩ := pmcFindConn_some found
      rw [List.inj_on_of_nodup_map holds.distinctIds inList listed same]

/-- **A search in memory finds what a search of the list finds.** -/
theorem search_eq (holds : p.Holds cells conns) (meets : PmcConnection → Bool) :
    ∃ target, p.search meets = some target ∧
      ∃ found, p.deref target = some found ∧
        found.map PeerObject.conn = conns.find? meets := by
  have walked := Listed.findLoop_eq (fun peer : PeerObject => meets peer.conn)
    holds.owned.segment holds.length_lt
  refine ⟨_, walked, ?_⟩
  rw [← holds.listed, List.find?_map]
  change ∃ found, _ ∧ _ = (cells.find? fun cell => meets cell.2.conn).map _
  cases first : cells.find? fun cell => meets cell.2.conn with
  | none => exact ⟨none, rfl, rfl⟩
  | some cell =>
      refine ⟨some cell.2, ?_, rfl⟩
      have here := holds.object_eq (List.mem_of_find?_eq_some first)
      change (p.object cell.1).map some = some (some cell.2)
      rw [here]
      rfl

/-! ## Objects that are written -/

variable [DecidableEq α] {a : α} {peer : PeerObject}

theorem put (holds : p.Holds cells conns) (member : (a, peer) ∈ cells) (updated : PeerObject)
    (sameId : updated.conn.id = peer.conn.id) (sameFd : updated.conn.fd = peer.conn.fd) :
    (p.put a updated).Holds (updatePeer cells a updated) (updateConn conns updated.conn) := by
  have keys := updateConn_keys holds.distinctIds (holds.mem_conns member) sameId sameFd
  have here : ∀ cell ∈ cells, cell.1 = a → cell = (a, peer) :=
    fun cell inCells same => holds.eq_of_address inCells member same
  refine ⟨holds.owned.set a updated, ?_, holds.openFds.trans keys.2.symm, ?_, ?_,
    keys.1 ▸ holds.distinctIds, keys.2 ▸ holds.distinctFds⟩
  · rw [← holds.listed, updateConn, updatePeer, List.map_map, List.map_map]
    refine List.map_congr_left fun cell inCells => ?_
    dsimp only [Function.comp_apply]
    by_cases same : cell.1 = a
    · rw [if_pos same, here cell inCells same, if_pos sameId.symm]
    · rw [if_neg same, if_neg fun sameNumber => same ?_]
      exact congrArg Prod.fst (holds.eq_of_id inCells member (sameNumber.trans sameId))
  · refine holds.watched.trans ?_
    rw [updatePeer, List.map_map]
    refine List.map_congr_left fun cell inCells => ?_
    dsimp only [Function.comp_apply]
    by_cases same : cell.1 = a
    · rw [if_pos same, here cell inCells same, sameFd]
    · rw [if_neg same]
  · intro conn inList
    rcases mem_updateConn inList with rfl | ⟨old, _⟩
    · rw [sameId]
      exact holds.fresh _ (holds.mem_conns member)
    · exact holds.fresh conn old

/-- The keys stay when an object is written that keeps its number and its session. -/
theorem peerKeys_updatePeer (holds : p.Holds cells conns) (member : (a, peer) ∈ cells)
    {updated : PeerObject} (sameId : updated.conn.id = peer.conn.id)
    (sameSession : updated.session = peer.session) :
    peerKeys (updatePeer cells a updated) = peerKeys cells := by
  rw [peerKeys, updatePeer, List.map_map]
  refine List.map_congr_left fun cell inCells => ?_
  dsimp only [Function.comp_apply]
  by_cases same : cell.1 = a
  · rw [if_pos same, holds.eq_of_address inCells member same, sameId, sameSession]
  · rw [if_neg same]

/-! ## Connections that come and go -/

theorem map_removePeer (holds : p.Holds cells conns) (member : (a, peer) ∈ cells) :
    ((removePeer cells a).map fun cell => cell.2.conn) = pmcConnRemove conns peer.conn.id := by
  rw [← holds.listed, pmcConnRemove, removePeer, List.filter_map]
  refine congrArg _ (List.filter_congr fun cell inCells => ?_)
  refine decide_eq_decide.mpr (not_congr ⟨fun same => ?_, fun same => ?_⟩)
  · exact congrArg (fun cell : α × PeerObject => cell.2.conn.id)
      (holds.eq_of_address inCells member same)
  · exact congrArg Prod.fst (holds.eq_of_id inCells member same)

/-- **`close_connection` releases one connection** and leaves the others. -/
theorem closeConnection (holds : p.Holds cells conns) (member : (a, peer) ∈ cells) :
    ∃ q, p.closeConnection a = some q ∧
      q.Holds (removePeer cells a) (pmcConnRemove conns peer.conn.id) ∧
      q.aux = p.aux ∧ q.made = p.made := by
  obtain ⟨after, unlinked, allocated, owned⟩ :=
    holds.owned.unlink (List.mem_map_of_mem member) holds.length_lt
  have here : ∀ cell ∈ cells, cell.2.conn.fd = peer.conn.fd ↔ cell.1 = a :=
    fun cell inCells => ⟨fun same => congrArg Prod.fst (holds.eq_of_fd inCells member same),
      fun same => congrArg (fun cell : α × PeerObject => cell.2.conn.fd)
        (holds.eq_of_address inCells member same)⟩
  have closes : p.closeConnection a =
      some { (p.unwatch peer.conn.fd).closeFd peer.conn.fd with store := after.free a } := by
    simp only [PmcProcess.closeConnection, holds.object_eq member, Option.bind_eq_bind,
      Option.bind_some, connRemove, closeFd, unwatch, unlinked, Option.map_some, PmcProcess.free,
      allocated, if_true]
  refine ⟨_, closes, ⟨owned, holds.map_removePeer member, ?_, ?_, ?_, ?_, ?_⟩, rfl, rfl⟩
  · change p.openFds.filter _ = _
    rw [holds.openFds, ← holds.map_removePeer member, removePeer, List.map_map, ← holds.listed,
      List.map_map, List.filter_map]
    refine congrArg _ (List.filter_congr fun cell inCells => ?_)
    exact decide_eq_decide.mpr (not_congr (here cell inCells))
  · change p.watched.filter _ = _
    rw [holds.watched, removePeer, List.filter_map]
    refine congrArg _ (List.filter_congr fun cell inCells => ?_)
    exact decide_eq_decide.mpr (not_congr (here cell inCells))
  · exact fun conn inList => holds.fresh conn (List.mem_of_mem_filter inList)
  · exact holds.distinctIds.sublist (List.filter_sublist.map _)
  · exact holds.distinctFds.sublist (List.filter_sublist.map _)

/-- A connection that is made. -/
theorem connAdd (holds : p.Holds cells conns) {fd : ℤ} (closed : fd ∉ conns.map PmcConnection.fd)
    (unused : p.store.heap a = none) :
    ({ p.connAdd a fd with
        openFds := fd :: p.openFds, watched := (fd, a) :: p.watched } : PmcProcess α τ).Holds
      ((a, newPeerObject p.made fd) :: cells)
      (pmcConnAdd conns p.made fd) where
  owned := holds.owned.push unused _
  listed := congrArg _ holds.listed
  openFds := congrArg _ holds.openFds
  watched := congrArg _ holds.watched
  fresh conn inList := by
    rcases List.mem_cons.mp inList with rfl | old
    · exact Nat.lt_succ_self _
    · exact Nat.lt_succ_of_lt (holds.fresh conn old)
  distinctIds := by
    refine List.nodup_cons.mpr ⟨fun inList => ?_, holds.distinctIds⟩
    obtain ⟨conn, old, same⟩ := List.mem_map.mp inList
    exact absurd same (Nat.ne_of_lt (holds.fresh conn old))
  distinctFds := List.nodup_cons.mpr ⟨closed, holds.distinctFds⟩

end Holds

/-- What becomes of a new descriptor: it is closed again, before or after an object was made for it,
or its connection is in front of the list. -/
inductive PeerOpened (p : PmcProcess α τ) (cells : List (α × PeerObject))
    (conns : List PmcConnection) (new : NewPeer α) :
    Option (PmcProcess α τ × Option α) → Prop where
  | refused : PeerOpened p cells conns new (some (p, none))
  | released (q : PmcProcess α τ) : q.Holds cells conns → q.aux = p.aux → q.made = p.made + 1 →
      PeerOpened p cells conns new (some (q, none))
  | opened (q : PmcProcess α τ) (a : α) : new.address = some a →
      q.Holds ((a, newPeerObject p.made new.fd) :: cells) (pmcConnAdd conns p.made new.fd) →
      q.aux = p.aux → q.made = p.made + 1 →
      PeerOpened p cells conns new (some (q, some a))

/-- **A new descriptor** becomes a connection, or nothing is left of it. -/
theorem openPeer_holds [DecidableEq α] {p : PmcProcess α τ} {cells : List (α × PeerObject)}
    {conns : List PmcConnection} (holds : p.Holds cells conns) (new : NewPeer α)
    (closed : new.fd ∉ p.openFds) (unused : ∀ a ∈ new.address, p.store.heap a = none) :
    PeerOpened p cells conns new (p.openPeer new) := by
  have refused : (new.fd :: p.openFds).filter (fun fd => decide (fd ≠ new.fd)) = p.openFds := by
    rw [List.filter_cons_of_neg (by simp)]
    refine List.filter_eq_self.mpr fun fd isOpen => decide_eq_true ?_
    rintro rfl
    exact closed isOpen
  rw [openPeer]
  cases new.nonblocking with
  | false =>
      simp only [Bool.not_false, if_true, closeFd, refused]
      exact .refused
  | true =>
  simp only [Bool.not_true, Bool.false_eq_true, if_false]
  cases given : new.address with
  | none =>
      simp only [closeFd, refused]
      exact .refused
  | some a =>
  have added := holds.connAdd (holds.openFds ▸ closed) (unused a (by rw [given]; rfl))
  cases new.watches with
  | true => exact .opened _ a given added rfl rfl
  | false =>
  obtain ⟨after, unlinked, allocated, owned⟩ :=
    added.owned.unlink List.mem_cons_self added.length_lt
  have remains : ((a, newPeerObject p.made new.fd) :: cells).filter
      (fun cell => decide (cell.1 ≠ a)) = cells := by
    rw [List.filter_cons_of_neg (by simp)]
    refine List.filter_eq_self.mpr fun cell inCells => decide_eq_true ?_
    rintro rfl
    exact holds.owned.not_mem (unused cell.1 (by rw [given]; rfl)) (List.mem_map_of_mem inCells)
  rw [remains] at owned
  simp only [PmcProcess.connAdd] at unlinked
  simp only [PmcProcess.connAdd, connRemove, Option.bind_eq_bind, Option.bind_some, unlinked,
    Option.map_some, PmcProcess.free, allocated, if_true, closeFd, refused, Option.pure_def,
    Bool.false_eq_true, if_false]
  exact .released _ ⟨owned, holds.listed, holds.openFds, holds.watched,
    fun conn inList => Nat.lt_succ_of_lt (holds.fresh conn inList), holds.distinctIds,
    holds.distinctFds⟩ rfl rfl

/-! ## A message of a peer -/

section Serving

variable [CDouble δ] (io : SerialPort τ) {p : PmcProcess α τ} {cells : List (α × PeerObject)}
  {conns : List PmcConnection}

/-- A message of equipmentd is routed as on the list. -/
theorem routeEqd_holds (holds : p.Holds cells conns) (eqd : PeerObject) (m : Message δ)
    (writeOk : ℤ → Bool) :
    p.routeEqd io eqd m writeOk =
        some ({ p with aux := (pmcRouteEqd io ⟨conns, p.aux⟩ eqd.conn m writeOk).pmc.aux },
          (pmcRouteEqd io ⟨conns, p.aux⟩ eqd.conn m writeOk).wrote) ∧
      (pmcRouteEqd io ⟨conns, p.aux⟩ eqd.conn m writeOk).pmc.conns = conns := by
  obtain ⟨target, searched, sim, used, found⟩ : ∃ target,
      (m.dev.elim (some none) fun dev => p.findSim dev.toInt32) = some target ∧
        ∃ sim, p.deref target = some sim ∧
          sim.map PeerObject.conn = m.dev.bind fun dev => pmcFindSim conns dev.toInt32 := by
    cases m.dev with
    | none => exact ⟨none, rfl, none, rfl, rfl⟩
    | some dev =>
        exact holds.search_eq fun conn =>
          conn.registered && decide (conn.type = .sim) && decide (conn.devId = dev.toInt32)
  rw [routeEqd, pmcRouteEqd, searched]
  simp only [Option.bind_eq_bind, Option.bind_some, used, found]
  cases pmcSequenceDecideEqdRequest (m.dev.bind fun dev => pmcFindSim conns dev.toInt32) m with
  | rejectMissingDev | rejectSimNotFound | rejectInterlock =>
      simp only [pmcSend_pmc, pmcSend_wrote, and_self]
  | respondCachedStatus sim => simp only [pmcSend_pmc, pmcSend_wrote, and_self]
  | routeToSim sim =>
      simp only [pmcRouteToSim]
      rcases applyAuxForCommand io (m.dev.getD 0).toInt32 m.type p.aux with ⟨_ | _, aux⟩
      · simp only [pmcSend_pmc, pmcSend_wrote, and_self]
      · cases pmcIoSendMessage sim.fd m writeOk with
        | none => simp only [pmcSend_pmc, pmcSend_wrote, and_self]
        | some wrote => exact ⟨rfl, rfl⟩

variable [DecidableEq α]

/-- A message of a sim goes to the connection of equipmentd that is found afterwards. -/
theorem pmcRouteSim_sends (pmc : Pmc τ) (sim : PmcConnection) (m : Message δ)
    (writeOk : ℤ → Bool) :
    (pmcRouteSim pmc sim m writeOk).wrote =
      (pmcFindEqd (pmcRouteSim pmc sim m writeOk).pmc.conns).bind
        fun eqd => pmcIoSendMessage eqd.fd m writeOk := by
  obtain ⟨conns, same⟩ : ∃ conns, pmcRouteSim pmc sim m writeOk =
      (pmcFindEqd conns).elim ⟨{ pmc with conns := conns }, -1, none⟩
        fun eqd => pmcSend { pmc with conns := conns } eqd.fd m writeOk :=
    ⟨_, by rw [pmcRouteSim]; cases pmcFindEqd _ <;> rfl⟩
  rw [same]
  cases found : pmcFindEqd conns with
  | none =>
      change none = (pmcFindEqd conns).bind _
      rw [found]
      rfl
  | some eqd =>
      rw [Option.elim_some, pmcSend_pmc, pmcSend_wrote, found, Option.bind_some]

/-- A message of a sim is routed as on the list. -/
theorem routeSim_holds (holds : p.Holds cells conns) {a : α} {sim : PeerObject}
    (member : (a, sim) ∈ cells) (m : Message δ) (writeOk : ℤ → Bool) :
    ∃ q after, p.routeSim a sim m writeOk =
        some (q, (pmcRouteSim ⟨conns, p.aux⟩ sim.conn m writeOk).wrote) ∧
      q.Holds after (pmcRouteSim ⟨conns, p.aux⟩ sim.conn m writeOk).pmc.conns ∧
      q.aux = (pmcRouteSim ⟨conns, p.aux⟩ sim.conn m writeOk).pmc.aux ∧
      q.made = p.made ∧ peerKeys after = peerKeys cells := by
  obtain ⟨after, reported, aux, made, keys⟩ : ∃ after, (p.reportState a sim m).Holds after
        (pmcRouteSim ⟨conns, p.aux⟩ sim.conn m writeOk).pmc.conns ∧
      (p.reportState a sim m).aux = p.aux ∧ (p.reportState a sim m).made = p.made ∧
      peerKeys after = peerKeys cells := by
    rw [pmcRouteSim_conns, reportState]
    by_cases isStatus : m.type = .status
    · rw [isStatus]
      cases m.state with
      | none => exact ⟨cells, holds, rfl, rfl, rfl⟩
      | some state =>
          exact ⟨_, holds.put member ⟨{ sim.conn with state, hasState := true }, sim.session⟩ rfl
            rfl, rfl, rfl, holds.peerKeys_updatePeer member rfl rfl⟩
    · cases type : m.type with
      | status => exact absurd type isStatus
      | _ => exact ⟨cells, holds, rfl, rfl, rfl⟩
  obtain ⟨target, searched, eqd, used, found⟩ := reported.search_eq fun conn =>
    conn.registered && decide (conn.type = .eqd)
  refine ⟨_, after, ?_, reported, aux.trans ?_, made, keys⟩
  · rw [routeSim, findEqd, searched, pmcRouteSim_sends, pmcFindEqd, ← found]
    simp only [Option.bind_eq_bind, Option.bind_some, used, Option.bind_map]
    rfl
  · exact (pmcRouteSim_step ⟨conns, p.aux⟩ sim.conn m writeOk).aux.symm

/-- **A message of a peer is served as on the list**, and no session changes. -/
theorem serveMessage_holds (holds : p.Holds cells conns) {a : α} {peer : PeerObject}
    (member : (a, peer) ∈ cells) (m : Message δ) (writeOk : ℤ → Bool) :
    ∃ q after, p.serveMessage io a m writeOk =
        some (q, (pmcServeMessage io ⟨conns, p.aux⟩ peer.conn.id m writeOk).2) ∧
      q.Holds after (pmcServeMessage io ⟨conns, p.aux⟩ peer.conn.id m writeOk).1.conns ∧
      q.aux = (pmcServeMessage io ⟨conns, p.aux⟩ peer.conn.id m writeOk).1.aux ∧
      q.made = p.made ∧ peerKeys after = peerKeys cells := by
  rw [serveMessage, pmcServeMessage, holds.pmcFindConn_eq member, holds.object_eq member]
  simp only [Option.bind_eq_bind, Option.bind_some]
  cases known : peer.conn.registered with
  | false =>
      simp only [Bool.not_false, if_true]
      cases registers : pmcHandleRegister peer.conn m with
      | none => exact ⟨p, cells, rfl, holds, rfl, rfl, rfl⟩
      | some registered =>
          obtain ⟨sameId, sameFd, _⟩ := pmcHandleRegister_some registers
          exact ⟨_, _, rfl, holds.put member _ sameId sameFd, rfl, rfl,
            holds.peerKeys_updatePeer member sameId rfl⟩
  | true =>
  simp only [Bool.not_true, Bool.false_eq_true, if_false]
  by_cases isRegister : m.type = .register
  · rw [if_pos isRegister, if_pos isRegister]
    exact ⟨p, cells, rfl, holds, rfl, rfl, rfl⟩
  rw [if_neg isRegister, if_neg isRegister, pmcRouteMessage, if_neg isRegister, known]
  simp only [Bool.not_true, Bool.false_eq_true, if_false]
  cases type : peer.conn.type with
  | unknown => exact ⟨p, cells, rfl, holds, rfl, rfl, rfl⟩
  | eqd =>
      obtain ⟨routed, sameConns⟩ := routeEqd_holds io holds peer m writeOk
      refine ⟨_, cells, routed, ?_, rfl, rfl, rfl⟩
      simp only [sameConns]
      exact holds.withAux _
  | sim => exact routeSim_holds holds member m writeOk

end Serving

/-- The process before it is connected to equipmentd holds no connection. -/
theorem start_holds (aux : Aux τ) : (start aux : PmcProcess α τ).Holds [] [] :=
  ⟨.empty, rfl, rfl, rfl, fun _ member => absurd member List.not_mem_nil, List.nodup_nil,
    List.nodup_nil⟩

/-- **`connect_to_eqd`**, when it succeeds, leaves the connection of equipmentd alone. -/
theorem connectToEqd_holds [CDouble δ] [DecidableEq α] (aux : Aux τ) {new : NewPeer α}
    {writeOk : ℤ → Bool} {q : PmcProcess α τ} {wrote : Option (ℤ × Bytes)}
    (connects : (start aux).connectToEqd δ new writeOk = some (q, wrote)) :
    ∃ a, q.Holds [(a, ⟨⟨0, new.fd, .eqd, true, -1, .empty 31, false⟩, sessionInit⟩)]
        (pmcEnter new.fd aux).pmc.conns ∧ q.aux = aux ∧ q.made = 1 := by
  have opens := openPeer_holds (start_holds aux) new List.not_mem_nil fun _ _ => rfl
  rw [connectToEqd] at connects
  generalize (start aux).openPeer new = result at opens connects
  cases opens with
  | refused => cases connects
  | released => cases connects
  | opened opened a _ holds sameAux made =>
      simp only [Option.bind_eq_bind, Option.bind_some, holds.object_eq List.mem_cons_self,
        Option.pure_def, Option.some.injEq, Prod.mk.injEq] at connects
      obtain ⟨rfl, _⟩ := connects
      have registered := holds.put List.mem_cons_self
        ⟨⟨0, new.fd, .eqd, true, -1, .empty 31, false⟩, sessionInit⟩ rfl rfl
      simp only [updatePeer, List.map_cons, if_true, List.map_nil] at registered
      exact ⟨a, registered, sameAux, made⟩

end PmcProcess

end EquipmentControl
