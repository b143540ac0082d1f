import EquipmentControl.Equipmentd.ClientEvent
import EquipmentControl.Equipmentd.ConnectionTable

/-!
# The connections of equipmentd in memory

`connection_table.c`, `close_connection` and `handle_accept_event` (`services/equipmentd/src`) on
the objects that `malloc` gives out: each has an address, the table holds addresses, epoll watches a
descriptor with an address, and addresses are used again after `free`. A function fails where it
would use an object that is not allocated, or free one twice.

A process holds the state of the daemon when its memory consists of one object for each open
connection, its open descriptors are theirs, epoll watches each of them with its address, and its
table holds the addresses of the connections in the table of the daemon (`DaemonProcess.Holds`). On
such a process the functions do what they do on that state (`Holds.closeConnection`, `Holds.accept`,
`Holds.scan`).
-/

set_option autoImplicit false

namespace EquipmentControl

open SlotTable

/-- `connection_t`. The `id` of the connection is the number of the object in the order they were
made, which no function reads. -/
structure ClientObject where
  conn : Connection
  state : ConnState

/-- The object of a new connection. -/
def newClientObject (number : ℕ) (fd nowMs : ℤ) : ClientObject :=
  ⟨⟨number, fd, sessionInit, nowMs⟩, .isOpen⟩

/-- The process: the objects, `conn_table`, the descriptors of connections that are open, what epoll
watches (a descriptor and the pointer it reports), the context, and the number of connections made
so far. -/
structure DaemonProcess (α δ : Type) where
  heap : α → Option ClientObject
  table : List α
  openFds : List ℤ
  watched : List (ℤ × α)
  ctx : AppCtx δ
  made : ℕ

/-- What the system calls for a new connection return: the descriptor, whether `set_nonblocking`
succeeds, the address from `malloc`, the clock, and whether `epoll_ctl` succeeds. -/
structure NewClient (α : Type) where
  fd : ℤ
  nonblocking : Bool
  address : Option α
  nowMs : ℤ
  watches : Bool

/-- Everything succeeds. -/
def NewClient.setUp {α : Type} (new : NewClient α) : Bool :=
  new.nonblocking && new.address.isSome && new.watches

namespace DaemonProcess

variable {α δ : Type}

/-- The process when `main` enters its loop. -/
def start (ctx : AppCtx δ) : DaemonProcess α δ := ⟨fun _ => none, [], [], [], ctx, 0⟩

/-- A use of the object at an address. -/
def object (p : DaemonProcess α δ) (a : α) : Option ClientObject := p.heap a

/-- `close` of a descriptor. -/
def closeFd (p : DaemonProcess α δ) (fd : ℤ) : DaemonProcess α δ :=
  { p with openFds := p.openFds.filter fun other => decide (other ≠ fd) }

/-- `epoll_ctl` with `EPOLL_CTL_DEL`. -/
def unwatch (p : DaemonProcess α δ) (fd : ℤ) : DaemonProcess α δ :=
  { p with watched := p.watched.filter fun other => decide (other.1 ≠ fd) }

/-- `register_connection`. -/
def registerConnection (p : DaemonProcess α δ) (a : α) : DaemonProcess α δ :=
  { p with table := if p.table.length < maxConn then p.table ++ [a] else p.table }

section Functions

variable [DecidableEq α]

/-- The fields of an object are written. -/
def put (p : DaemonProcess α δ) (a : α) (object : ClientObject) : DaemonProcess α δ :=
  { p with heap := Function.update p.heap a (some object) }

/-- `unregister_connection`. -/
def unregisterConnection (p : DaemonProcess α δ) (a : α) : DaemonProcess α δ :=
  { p with table := removeFirst p.table a a }

def free (p : DaemonProcess α δ) (a : α) : Option (DaemonProcess α δ) :=
  if (p.heap a).isSome then some { p with heap := Function.update p.heap a none } else none

/-- The end of a connection: epoll, the descriptor, the table and the object. -/
def release (p : DaemonProcess α δ) (a : α) (fd : ℤ) : Option (DaemonProcess α δ) :=
  (((p.unwatch fd).closeFd fd).unregisterConnection a).free a

/-- `close_connection`. -/
def closeConnection (p : DaemonProcess α δ) (a : α) : Option (DaemonProcess α δ) :=
  (p.object a).bind fun object =>
    (p.put a { object with state := .closed }).release a object.conn.fd

/-- One round of `handle_accept_event`. -/
def accept (p : DaemonProcess α δ) (new : NewClient α) : Option (DaemonProcess α δ) :=
  let opened := { p with openFds := new.fd :: p.openFds }
  if !new.nonblocking then some (opened.closeFd new.fd)
  else
    match new.address with
    | none => some (opened.closeFd new.fd)
    | some a =>
        let entered :=
          (opened.put a (newClientObject p.made new.fd new.nowMs)).registerConnection a
        if new.watches then
          some { entered with watched := (new.fd, a) :: entered.watched, made := entered.made + 1 }
        else ((entered.unregisterConnection a).closeFd new.fd).free a

/-- The loop of `scan_connection_timeout` at index `i`, for `fuel` rounds at most. -/
def scanLoop (nowMs : ℤ) : ℕ → ℕ → DaemonProcess α δ → Option (DaemonProcess α δ)
  | 0, _, _ => none
  | fuel + 1, i, p =>
      match p.table[i]? with
      | none => some p
      | some a => (p.object a).bind fun object =>
          if isIdle nowMs object.conn then
            (p.release a object.conn.fd).bind fun q => scanLoop nowMs fuel i q
          else scanLoop nowMs fuel (i + 1) p

/-- `scan_connection_timeout`: every round passes an entry or removes one. -/
def scanConnectionTimeout (p : DaemonProcess α δ) (nowMs : ℤ) : Option (DaemonProcess α δ) :=
  scanLoop nowMs (p.table.length + 1) 0 p

end Functions

/-! ## The state it holds -/

/-- The number of the connection at an address. -/
def idAt (p : DaemonProcess α δ) (a : α) : ℕ :=
  ((p.object a).map fun object => object.conn.id).getD 0

theorem put_heap_self [DecidableEq α] (p : DaemonProcess α δ) (a : α) (object : ClientObject) :
    (p.put a object).heap a = some object := Function.update_self ..

theorem put_heap_of_ne [DecidableEq α] (p : DaemonProcess α δ) {a b : α} (other : b ≠ a)
    (object : ClientObject) : (p.put a object).heap b = p.heap b :=
  Function.update_of_ne other _ _

theorem idAt_of_heap {p : DaemonProcess α δ} {a : α} {object : ClientObject}
    (allocated : p.heap a = some object) : p.idAt a = object.conn.id := by
  rw [idAt, DaemonProcess.object, allocated]
  rfl

theorem idAt_congr {p q : DaemonProcess α δ} {a : α} (same : p.heap a = q.heap a) :
    p.idAt a = q.idAt a := by
  rw [idAt, idAt, DaemonProcess.object, DaemonProcess.object, same]

/-- A process holds the state of the daemon, in these cells. -/
structure Holds (p : DaemonProcess α δ) (cells : List (α × ClientObject)) (d : Daemon δ) :
    Prop where
  distinct : (cells.map Prod.fst).Nodup
  heap : ∀ a object, p.heap a = some object ↔ (a, object) ∈ cells
  listed : (cells.map fun cell => cell.2.conn) = d.conns.list
  live : ∀ cell ∈ cells, cell.2.state = .isOpen
  openFds : p.openFds = d.conns.list.map Connection.fd
  watched : p.watched = cells.map fun cell => (cell.2.conn.fd, cell.1)
  entered : ∀ a ∈ p.table, a ∈ cells.map Prod.fst
  once : p.table.Nodup
  table : d.connTable = p.table.map p.idAt
  ctx : p.ctx = d.ctx
  made : p.made = d.conns.nextId

/-- The cells when the object at an address is written. -/
def updateClient [DecidableEq α] (cells : List (α × ClientObject)) (a : α) (object : ClientObject) :
    List (α × ClientObject) :=
  cells.map fun cell => if cell.1 = a then (a, object) else cell

/-- The cells when the object at an address is released. -/
def removeClient [DecidableEq α] (cells : List (α × ClientObject)) (a : α) :
    List (α × ClientObject) :=
  cells.filter fun cell => decide (cell.1 ≠ a)

theorem addresses_updateClient [DecidableEq α] (cells : List (α × ClientObject)) (a : α)
    (object : ClientObject) : (updateClient cells a object).map Prod.fst = cells.map Prod.fst := by
  rw [updateClient, List.map_map]
  refine List.map_congr_left fun cell _ => ?_
  dsimp only [Function.comp_apply]
  by_cases same : cell.1 = a
  · rw [if_pos same, same]
  · rw [if_neg same]

theorem mem_updateClient [DecidableEq α] {cells : List (α × ClientObject)} {a : α}
    {object : ClientObject} (member : (a, object) ∈ cells) (written : ClientObject) :
    (a, written) ∈ updateClient cells a written := List.mem_map.mpr ⟨_, member, if_pos rfl⟩

/-- The other objects stay where they are. -/
theorem mem_removeClient [DecidableEq α] {cells : List (α × ClientObject)} {a b : α}
    (member : b ∈ cells.map Prod.fst) (other : b ≠ a) :
    b ∈ (removeClient cells a).map Prod.fst := by
  obtain ⟨cell, inCells, rfl⟩ := List.mem_map.mp member
  exact List.mem_map_of_mem (List.mem_filter.mpr ⟨inCells, decide_eq_true other⟩)

namespace Holds

variable {p : DaemonProcess α δ} {cells : List (α × ClientObject)} {d : Daemon δ} {a : α}
  {object : ClientObject}

theorem start [CDouble δ] :
    (DaemonProcess.start (daemonInit : Daemon δ).ctx : DaemonProcess α δ).Holds [] daemonInit where
  distinct := List.nodup_nil
  heap a object := iff_of_false (by rintro ⟨⟩) (by rintro ⟨⟩)
  listed := rfl
  live := by rintro _ ⟨⟩
  openFds := rfl
  watched := rfl
  entered := by rintro _ ⟨⟩
  once := List.nodup_nil
  table := rfl
  ctx := rfl
  made := rfl

/-- The object of a cell is allocated. -/
theorem object_eq (holds : p.Holds cells d) (member : (a, object) ∈ cells) :
    p.object a = some object :=
  (holds.heap a object).mpr member

theorem mem_conns (holds : p.Holds cells d) (member : (a, object) ∈ cells) :
    object.conn ∈ d.conns.list := by
  rw [← holds.listed]
  exact List.mem_map_of_mem (f := fun cell : α × ClientObject => cell.2.conn) member

theorem isSome_heap (holds : p.Holds cells d) (member : (a, object) ∈ cells) :
    (p.heap a).isSome = true := by
  rw [(holds.heap a object).mpr member]
  rfl

/-- No object is at an address outside the cells. -/
theorem object_eq_none (holds : p.Holds cells d) (outside : a ∉ cells.map Prod.fst) :
    p.object a = none := by
  refine Option.eq_none_iff_forall_ne_some.mpr fun object found => outside ?_
  exact List.mem_map_of_mem (f := Prod.fst) ((holds.heap a object).mp found)

/-- A cell is known by its address, by its number and by its descriptor. -/
theorem eq_of_address (holds : p.Holds cells d) {first second : α × ClientObject}
    (one : first ∈ cells) (two : second ∈ cells) (same : first.1 = second.1) : first = second :=
  List.inj_on_of_nodup_map holds.distinct one two same

theorem eq_of_id (holds : p.Holds cells d) {first second : α × ClientObject}
    (one : first ∈ cells) (two : second ∈ cells)
    (same : first.2.conn.id = second.2.conn.id) : first = second := by
  have distinct := d.conns.distinctIds
  rw [← holds.listed, List.map_map] at distinct
  exact List.inj_on_of_nodup_map distinct one two same

theorem eq_of_fd (holds : p.Holds cells d) {first second : α × ClientObject}
    (one : first ∈ cells) (two : second ∈ cells)
    (same : first.2.conn.fd = second.2.conn.fd) : first = second := by
  have distinct := d.conns.distinctFds
  rw [← holds.listed, List.map_map] at distinct
  exact List.inj_on_of_nodup_map distinct one two same

theorem find_eq (holds : p.Holds cells d) (member : (a, object) ∈ cells) :
    d.conns.find object.conn.id = some object.conn :=
  Connections.find_eq_some.mpr ⟨holds.mem_conns member, rfl⟩

theorem idAt_eq (holds : p.Holds cells d) (member : (a, object) ∈ cells) :
    p.idAt a = object.conn.id := idAt_of_heap (holds.object_eq member)

/-- An entry of the table is the address of a cell. -/
theorem cell_of_entry (holds : p.Holds cells d) (entry : a ∈ p.table) :
    ∃ object, (a, object) ∈ cells := by
  obtain ⟨⟨_, object⟩, member, rfl⟩ := List.mem_map.mp (holds.entered a entry)
  exact ⟨object, member⟩

/-- The context is another one on both sides. -/
theorem withCtx (holds : p.Holds cells d) (ctx : AppCtx δ) :
    ({ p with ctx := ctx } : DaemonProcess α δ).Holds cells { d with ctx := ctx } :=
  { holds with ctx := rfl }

/-! ## Connections that come and go -/

variable [DecidableEq α]

/-- The session and the time of activity of a connection are written. -/
theorem update (holds : p.Holds cells d) (member : (a, object) ∈ cells) (session : Session)
    (lastActiveMs : ℤ) :
    let written : ClientObject :=
      { object with conn := { object.conn with session := session, lastActiveMs := lastActiveMs } }
    (p.put a written).Holds (updateClient cells a written)
      { d with conns := d.conns.update object.conn.id session lastActiveMs } := by
  intro written
  have here : ∀ cell ∈ cells, cell.1 = a → cell = (a, object) :=
    fun cell inCells same => holds.eq_of_address inCells member same
  have sameId : ∀ b, (p.put a written).idAt b = p.idAt b := by
    intro b
    by_cases same : b = a
    · subst same
      exact (idAt_of_heap (p.put_heap_self b written)).trans (holds.idAt_eq member).symm
    · exact idAt_congr (p.put_heap_of_ne same written)
  have addresses := addresses_updateClient cells a written
  refine ⟨addresses ▸ holds.distinct, fun b other => ?_, ?_, ?_, ?_, ?_, ?_, holds.once, ?_,
    holds.ctx, holds.made⟩
  · change Function.update p.heap a (some written) b = some other ↔ _
    by_cases same : b = a
    · subst same
      rw [Function.update_self]
      constructor
      · rintro ⟨⟩
        exact mem_updateClient member written
      · intro inCells
        obtain ⟨cell, _, same⟩ := List.mem_map.mp inCells
        by_cases its : cell.1 = b
        · rw [if_pos its] at same
          cases same
          rfl
        · rw [if_neg its] at same
          exact absurd (congrArg Prod.fst same) its
    · rw [Function.update_of_ne same, holds.heap]
      constructor
      · intro inCells
        exact List.mem_map.mpr ⟨_, inCells, if_neg same⟩
      · intro inCells
        obtain ⟨cell, old, moved⟩ := List.mem_map.mp inCells
        by_cases its : cell.1 = a
        · rw [if_pos its] at moved
          exact absurd (congrArg Prod.fst moved).symm same
        · rw [if_neg its] at moved
          exact moved ▸ old
  · rw [updateClient, List.map_map]
    change _ = d.conns.list.map (Connections.updated object.conn.id session lastActiveMs)
    rw [← holds.listed, List.map_map]
    refine List.map_congr_left fun cell inCells => ?_
    dsimp only [Function.comp_apply]
    rw [Connections.updated]
    by_cases same : cell.1 = a
    · rw [if_pos same, here cell inCells same, if_pos rfl]
    · rw [if_neg same, if_neg fun sameNumber => same ?_]
      exact congrArg Prod.fst (holds.eq_of_id inCells member sameNumber)
  · intro cell inCells
    obtain ⟨old, oldCell, rfl⟩ := List.mem_map.mp inCells
    by_cases same : old.1 = a
    · rw [if_pos same]
      exact holds.live (a, object) member
    · rw [if_neg same]
      exact holds.live old oldCell
  · refine holds.openFds.trans ?_
    change _ = (d.conns.list.map (Connections.updated object.conn.id session lastActiveMs)).map _
    rw [List.map_map]
    exact List.map_congr_left fun conn _ => (Connections.updated_fd ..).symm
  · refine holds.watched.trans ?_
    rw [updateClient, List.map_map]
    refine List.map_congr_left fun cell inCells => ?_
    dsimp only [Function.comp_apply]
    by_cases same : cell.1 = a
    · rw [if_pos same, here cell inCells same]
    · rw [if_neg same]
  · rw [addresses]
    exact holds.entered
  · exact holds.table.trans (List.map_congr_left fun b _ => (sameId b).symm)

omit [DecidableEq α] in
theorem map_removeClient [DecidableEq α] (holds : p.Holds cells d) (member : (a, object) ∈ cells) :
    ((removeClient cells a).map fun cell => cell.2.conn) =
      (d.conns.close object.conn.id).list := by
  change _ = d.conns.list.filter _
  rw [← holds.listed, removeClient, List.filter_map]
  refine congrArg _ (List.filter_congr fun cell inCells => ?_)
  refine decide_eq_decide.mpr (not_congr ⟨fun same => ?_, fun same => ?_⟩)
  · exact congrArg (fun cell : α × ClientObject => cell.2.conn.id)
      (holds.eq_of_address inCells member same)
  · exact congrArg Prod.fst (holds.eq_of_id inCells member same)

/-- **The end of a connection** leaves nothing of it, and the others alone. -/
theorem release (holds : p.Holds cells d) (member : (a, object) ∈ cells) :
    ∃ q, p.release a object.conn.fd = some q ∧
      q.Holds (removeClient cells a) (EquipmentControl.closeConnection d object.conn.id) := by
  have allocated := holds.isSome_heap member
  have released : p.release a object.conn.fd =
      some { ((p.unwatch object.conn.fd).closeFd object.conn.fd).unregisterConnection a with
        heap := Function.update p.heap a none } := by
    rw [DaemonProcess.release, DaemonProcess.free]
    exact if_pos allocated
  have here : ∀ cell ∈ cells, cell.2.conn.fd = object.conn.fd ↔ cell.1 = a :=
    fun cell inCells => ⟨fun same => congrArg Prod.fst (holds.eq_of_fd inCells member same),
      fun same => congrArg (fun cell : α × ClientObject => cell.2.conn.fd)
        (holds.eq_of_address inCells member same)⟩
  have entries : (removeFirst p.table a a).Perm (p.table.erase a) := removeFirst_perm p.table a a
  have left : ∀ b ∈ removeFirst p.table a a, b ≠ a ∧ b ∈ p.table :=
    fun b entry => holds.once.mem_erase_iff.mp (entries.mem_iff.mp entry)
  refine ⟨_, released, holds.distinct.sublist (List.filter_sublist.map _), fun b other => ?_,
    holds.map_removeClient member, ?_, ?_, ?_, fun b entry => ?_, ?_, ?_, holds.ctx, holds.made⟩
  · rw [removeClient, List.mem_filter, decide_eq_true_eq]
    change Function.update p.heap a none b = some other ↔ _ ∧ b ≠ a
    by_cases same : b = a
    · subst same
      rw [Function.update_self]
      exact iff_of_false (by rintro ⟨⟩) fun inCells => inCells.2 rfl
    · rw [Function.update_of_ne same, holds.heap]
      exact (and_iff_left same).symm
  · exact fun cell inCells => holds.live cell (List.mem_of_mem_filter inCells)
  · change p.openFds.filter _ = (d.conns.close object.conn.id).list.map _
    rw [holds.openFds, ← holds.map_removeClient member, removeClient, List.map_map, ← holds.listed,
      List.map_map, List.filter_map]
    refine congrArg _ (List.filter_congr fun cell inCells => ?_)
    exact decide_eq_decide.mpr (not_congr (here cell inCells))
  · change p.watched.filter _ = _
    rw [holds.watched, removeClient, List.filter_map]
    refine congrArg _ (List.filter_congr fun cell inCells => ?_)
    exact decide_eq_decide.mpr (not_congr (here cell inCells))
  · obtain ⟨other, old⟩ := left b entry
    exact mem_removeClient (holds.entered b old) other
  · exact entries.nodup_iff.mpr (holds.once.sublist List.erase_sublist)
  · have numbered : ∀ b ∈ p.table, p.idAt b = p.idAt a → b = a := by
      intro b entry same
      obtain ⟨other, inCells⟩ := holds.cell_of_entry entry
      rw [holds.idAt_eq inCells, holds.idAt_eq member] at same
      exact congrArg Prod.fst (holds.eq_of_id inCells member same)
    change EquipmentControl.unregisterConnection d.connTable object.conn.id = _
    rw [unregisterConnection_eq, holds.table, ← holds.idAt_eq member]
    refine (removeFirst_map numbered a 0).symm.trans (List.map_congr_left fun b entry => ?_)
    exact idAt_congr (Function.update_of_ne (left b entry).1 none p.heap).symm

/-- **`close_connection`** -/
theorem closeConnection (holds : p.Holds cells d) (member : (a, object) ∈ cells) :
    ∃ q, p.closeConnection a = some q ∧
      q.Holds (removeClient cells a) (EquipmentControl.closeConnection d object.conn.id) := by
  obtain ⟨q, released, held⟩ := holds.release member
  refine ⟨q, ?_, held⟩
  rw [DaemonProcess.closeConnection, holds.object_eq member, Option.bind_some, ← released]
  simp only [DaemonProcess.release, DaemonProcess.free, DaemonProcess.unregisterConnection, closeFd,
    unwatch, put, Function.update_self, Option.isSome_some, holds.isSome_heap member, if_true,
    Function.update_idem]

omit [DecidableEq α] in
/-- An address that is not in use is neither that of a cell nor in the table. -/
theorem unused (holds : p.Holds cells d) (free : p.heap a = none) :
    a ∉ cells.map Prod.fst ∧ a ∉ p.table := by
  have outside : a ∉ cells.map Prod.fst := by
    intro inside
    obtain ⟨cell, inCells, rfl⟩ := List.mem_map.mp inside
    cases free.symm.trans ((holds.heap cell.1 cell.2).mpr inCells)
  exact ⟨outside, fun entry => outside (holds.entered a entry)⟩

/-- A connection that is not set up leaves nothing. -/
theorem accept_of_not_setUp (holds : p.Holds cells d) {new : NewClient α}
    (closed : new.fd ∉ p.openFds) (unused : ∀ b ∈ new.address, p.heap b = none)
    (failed : new.setUp = false) : p.accept new = some p := by
  have reclosed : (new.fd :: p.openFds).filter (fun other => decide (other ≠ new.fd)) =
      p.openFds := by
    rw [List.filter_cons_of_neg (by simp), List.filter_eq_self]
    intro other isOpen
    refine decide_eq_true ?_
    rintro rfl
    exact closed isOpen
  cases nonblocking : new.nonblocking with
  | false =>
      simp only [DaemonProcess.accept, nonblocking, Bool.not_false, if_true, closeFd, reclosed]
  | true =>
  cases address : new.address with
  | none =>
      simp only [DaemonProcess.accept, nonblocking, Bool.not_true, Bool.false_eq_true, if_false,
        address, closeFd, reclosed]
  | some b =>
  have watches : new.watches = false := by
    simpa [NewClient.setUp, nonblocking, address] using failed
  have free : p.heap b = none := unused b address
  have unlisted := (holds.unused free).2
  have heap : ∀ written, Function.update (Function.update p.heap b written) b none = p.heap := by
    intro written
    rw [Function.update_idem, ← free, Function.update_eq_self]
  have table : removeFirst (if p.table.length < maxConn then p.table ++ [b] else p.table) b b =
      p.table := by
    split
    · exact removeFirst_concat unlisted b
    · exact removeFirst_of_not_mem unlisted b
  simp only [DaemonProcess.accept, nonblocking, Bool.not_true, Bool.false_eq_true, if_false,
    address, watches, DaemonProcess.free, closeFd, DaemonProcess.unregisterConnection,
    DaemonProcess.registerConnection, put, Function.update_self, Option.isSome_some, if_true,
    heap, reclosed]
  exact congrArg (fun entries => some ({ p with table := entries } : DaemonProcess α δ)) table

/-- A connection that is set up. -/
theorem enter (holds : p.Holds cells d) (free : p.heap a = none) {fd : ℤ} (nowMs : ℤ)
    (closed : fd ∉ d.conns.list.map Connection.fd) :
    let entered := ({ p with openFds := fd :: p.openFds }.put a
      (newClientObject p.made fd nowMs)).registerConnection a
    ({ entered with
      watched := (fd, a) :: entered.watched
      made := entered.made + 1 } : DaemonProcess α δ).Holds
      ((a, newClientObject p.made fd nowMs) :: cells)
      { d with
        conns := d.conns.add fd nowMs closed
        connTable := EquipmentControl.registerConnection d.connTable d.conns.nextId } := by
  intro entered
  obtain ⟨outside, unlisted⟩ := holds.unused free
  have others : ∀ b, b ≠ a → entered.idAt b = p.idAt b :=
    fun b differs => idAt_congr (p.put_heap_of_ne differs _)
  have its : entered.idAt a = p.made :=
    idAt_of_heap (p.put_heap_self a (newClientObject p.made fd nowMs))
  have table : entered.table = if p.table.length < maxConn then p.table ++ [a] else p.table := rfl
  refine ⟨List.nodup_cons.mpr ⟨outside, holds.distinct⟩, fun b other => ?_, ?_, ?_, ?_, ?_, ?_, ?_,
    ?_, holds.ctx, ?_⟩
  · change Function.update p.heap a _ b = some other ↔ _
    rw [List.mem_cons]
    by_cases same : b = a
    · subst same
      rw [Function.update_self]
      constructor
      · rintro ⟨⟩
        exact .inl rfl
      · rintro (isNew | inCells)
        · exact congrArg (fun cell : α × ClientObject => some cell.2) isNew.symm
        · exact absurd (List.mem_map_of_mem (f := Prod.fst) inCells) outside
    · rw [Function.update_of_ne same, holds.heap]
      refine ⟨.inr, ?_⟩
      rintro (isNew | inCells)
      · exact absurd (congrArg Prod.fst isNew) same
      · exact inCells
  · rw [List.map_cons, holds.listed, newClientObject, holds.made]
    rfl
  · intro cell inCells
    rcases List.mem_cons.mp inCells with rfl | old
    · rfl
    · exact holds.live cell old
  · exact congrArg (fd :: ·) holds.openFds
  · exact congrArg ((fd, a) :: ·) holds.watched
  · intro b entry
    change b ∈ entered.table at entry
    rw [table] at entry
    split at entry
    · rcases List.mem_append.mp entry with old | last
      · exact List.mem_cons_of_mem a (holds.entered b old)
      · exact List.mem_singleton.mp last ▸ List.mem_cons_self
    · exact List.mem_cons_of_mem a (holds.entered b entry)
  · change entered.table.Nodup
    rw [table]
    split
    · exact List.nodup_append.mpr ⟨holds.once, List.nodup_singleton a, fun b old other last =>
        fun same => unlisted (List.mem_singleton.mp last ▸ same ▸ old)⟩
    · exact holds.once
  · have kept : p.table.map entered.idAt = d.connTable := by
      rw [holds.table]
      refine List.map_congr_left fun b entry => others b ?_
      rintro rfl
      exact unlisted entry
    have length : d.connTable.length = p.table.length := by rw [holds.table, List.length_map]
    change EquipmentControl.registerConnection d.connTable d.conns.nextId =
      entered.table.map entered.idAt
    rw [EquipmentControl.registerConnection, length, table]
    split
    · rw [List.map_append, kept, List.map_singleton, its, holds.made]
    · exact kept.symm
  · exact congrArg (· + 1) holds.made

/-- **One round of `handle_accept_event`**, on a descriptor that is not open and an address that is
not in use. -/
theorem accept (holds : p.Holds cells d) {new : NewClient α} (accepted : 0 ≤ new.fd)
    (closed : new.fd ∉ p.openFds) (unused : ∀ b ∈ new.address, p.heap b = none) :
    ∃ q after, p.accept new = some q ∧
      q.Holds after (acceptConnection d new.fd new.nowMs new.setUp) ∧
      cells.map Prod.fst ⊆ after.map Prod.fst := by
  cases setUp : new.setUp with
  | false =>
      refine ⟨p, cells, holds.accept_of_not_setUp closed unused setUp, ?_, List.Subset.refl _⟩
      rw [acceptConnection, if_pos (.inr rfl)]
      exact holds
  | true =>
  obtain ⟨⟨nonblocking, allocated⟩, watches⟩ :
      (new.nonblocking = true ∧ new.address.isSome = true) ∧ new.watches = true := by
    simpa [NewClient.setUp] using setUp
  obtain ⟨b, address⟩ := Option.isSome_iff_exists.mp allocated
  rw [holds.openFds] at closed
  have opened := holds.enter (unused b address) new.nowMs closed
  rw [acceptConnection_of_opens ⟨accepted, rfl, closed⟩]
  refine ⟨_, _, ?_, opened, List.subset_cons_self _ _⟩
  simp only [DaemonProcess.accept, nonblocking, Bool.not_true, Bool.false_eq_true, if_false,
    address, watches, if_true]

omit [DecidableEq α] in
theorem table_length (holds : p.Holds cells d) : p.table.length = d.connTable.length := by
  rw [holds.table, List.length_map]

/-- The loop of `scan_connection_timeout` from an index on. -/
theorem scan (nowMs : ℤ) (rounds i : ℕ) (holds : p.Holds cells d)
    (enough : p.table.length ≤ i + rounds) :
    ∃ q after, DaemonProcess.scanLoop nowMs (rounds + 1) i p = some q ∧
      q.Holds after (scanFrom nowMs rounds i d) := by
  induction rounds generalizing i p cells d with
  | zero =>
      refine ⟨p, cells, ?_, holds⟩
      rw [DaemonProcess.scanLoop, List.getElem?_eq_none (show p.table.length ≤ i from enough)]
  | succ rounds ih =>
      rw [DaemonProcess.scanLoop, scanFrom, holds.table, List.getElem?_map]
      cases entry : p.table[i]? with
      | none => exact ⟨p, cells, rfl, holds⟩
      | some b =>
      have inTable := List.mem_of_getElem? entry
      obtain ⟨object, member⟩ := holds.cell_of_entry inTable
      simp only [Option.map_some, holds.object_eq member, Option.bind_some, holds.idAt_eq member,
        holds.find_eq member]
      by_cases idle : isIdle nowMs object.conn
      · obtain ⟨q, released, held⟩ := holds.release member
        have listed : object.conn.id ∈ d.connTable := by
          rw [holds.table, ← holds.idAt_eq member]
          exact List.mem_map_of_mem inTable
        have shorter : q.table.length = p.table.length - 1 := by
          rw [held.table_length, holds.table_length, ← List.length_erase_of_mem listed]
          exact (unregisterConnection_perm d.connTable object.conn.id).length_eq
        have bound := (List.getElem?_eq_some_iff.mp entry).1
        simp only [if_pos idle, released, Option.bind_some]
        exact ih i held (by omega)
      · simp only [if_neg idle]
        exact ih (i + 1) holds (by omega)

/-- **`scan_connection_timeout`** -/
theorem scanConnectionTimeout (holds : p.Holds cells d) (nowMs : ℤ) :
    ∃ q after, p.scanConnectionTimeout nowMs = some q ∧
      q.Holds after (EquipmentControl.scanConnectionTimeout d nowMs) := by
  obtain ⟨q, after, scanned, held⟩ := holds.scan nowMs p.table.length 0 (by omega)
  refine ⟨q, after, scanned, ?_⟩
  rwa [EquipmentControl.scanConnectionTimeout, ← holds.table_length]

end Holds

end DaemonProcess

end EquipmentControl
