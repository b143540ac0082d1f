import EquipmentControl.Protocol.Session

/-!
# Open connections

The `connection_t` objects that exist at a time, and the table of them that the idle scan walks
(`services/equipmentd/include/internal/connection.h`, `services/equipmentd/src/connection_table.c`).

A pointer to a connection is its `id`, which no later connection gets again; its descriptor can
come back once it is closed. `Connections` carries what the allocator and the operating system
guarantee: ids and descriptors of open connections are different.
-/

set_option autoImplicit false

namespace EquipmentControl

/-- `connection_t`. Its `state` is open as long as the connection is listed. -/
structure Connection where
  id : ℕ
  fd : ℤ
  session : Session
  lastActiveMs : ℤ

/-- The open connections, and the first id not used yet. -/
structure Connections where
  list : List Connection
  nextId : ℕ
  fresh : ∀ conn ∈ list, conn.id < nextId
  distinctIds : (list.map Connection.id).Nodup
  distinctFds : (list.map Connection.fd).Nodup

namespace Connections

def empty : Connections := ⟨[], 0, by simp, by simp, by simp⟩

/-- The open connection with an id. -/
def find (cs : Connections) (id : ℕ) : Option Connection :=
  cs.list.find? fun conn => decide (conn.id = id)

/-- A connection on a descriptor that is not open. -/
def add (cs : Connections) (fd nowMs : ℤ) (closed : fd ∉ cs.list.map Connection.fd) :
    Connections where
  list := ⟨cs.nextId, fd, sessionInit, nowMs⟩ :: cs.list
  nextId := cs.nextId + 1
  fresh conn member := by
    rcases List.mem_cons.mp member with rfl | old
    · exact Nat.lt_succ_self _
    · exact Nat.lt_succ_of_lt (cs.fresh conn old)
  distinctIds := by
    refine List.nodup_cons.mpr ⟨?_, cs.distinctIds⟩
    intro member
    obtain ⟨conn, old, same⟩ := List.mem_map.mp member
    exact absurd same (Nat.ne_of_lt (cs.fresh conn old))
  distinctFds := List.nodup_cons.mpr ⟨closed, cs.distinctFds⟩

/-- The connection with its session and its time of activity replaced, if it has the id. -/
def updated (id : ℕ) (session : Session) (lastActiveMs : ℤ) (conn : Connection) : Connection :=
  if conn.id = id then { conn with session := session, lastActiveMs := lastActiveMs } else conn

@[simp] theorem updated_id (id : ℕ) (session : Session) (lastActiveMs : ℤ) (conn : Connection) :
    (updated id session lastActiveMs conn).id = conn.id := by
  rw [updated]
  split <;> rfl

@[simp] theorem updated_fd (id : ℕ) (session : Session) (lastActiveMs : ℤ) (conn : Connection) :
    (updated id session lastActiveMs conn).fd = conn.fd := by
  rw [updated]
  split <;> rfl

def update (cs : Connections) (id : ℕ) (session : Session) (lastActiveMs : ℤ) : Connections where
  list := cs.list.map (updated id session lastActiveMs)
  nextId := cs.nextId
  fresh conn member := by
    obtain ⟨old, oldMember, rfl⟩ := List.mem_map.mp member
    rw [updated_id]
    exact cs.fresh old oldMember
  distinctIds := by
    have same : Connection.id ∘ updated id session lastActiveMs = Connection.id := by
      funext conn
      exact updated_id id session lastActiveMs conn
    rw [List.map_map, same]
    exact cs.distinctIds
  distinctFds := by
    have same : Connection.fd ∘ updated id session lastActiveMs = Connection.fd := by
      funext conn
      exact updated_fd id session lastActiveMs conn
    rw [List.map_map, same]
    exact cs.distinctFds

def close (cs : Connections) (id : ℕ) : Connections where
  list := cs.list.filter fun conn => decide (conn.id ≠ id)
  nextId := cs.nextId
  fresh conn member := cs.fresh conn (List.mem_of_mem_filter member)
  distinctIds := cs.distinctIds.sublist (List.filter_sublist.map _)
  distinctFds := cs.distinctFds.sublist (List.filter_sublist.map _)

/-! ## What the operations do -/

theorem eq_of_id {cs : Connections} {first second : Connection} (one : first ∈ cs.list)
    (two : second ∈ cs.list) (same : first.id = second.id) : first = second :=
  List.inj_on_of_nodup_map cs.distinctIds one two same

theorem eq_of_fd {cs : Connections} {first second : Connection} (one : first ∈ cs.list)
    (two : second ∈ cs.list) (same : first.fd = second.fd) : first = second :=
  List.inj_on_of_nodup_map cs.distinctFds one two same

/-- The connection found is the open one with the id. -/
theorem find_eq_some {cs : Connections} {id : ℕ} {conn : Connection} :
    cs.find id = some conn ↔ conn ∈ cs.list ∧ conn.id = id := by
  constructor
  · intro found
    exact ⟨List.mem_of_find?_eq_some found, by simpa using List.find?_some found⟩
  · rintro ⟨member, rfl⟩
    cases found : cs.find conn.id with
    | none =>
        have := List.find?_eq_none.mp found conn member
        simp at this
    | some other =>
        have same : other.id = conn.id := by simpa using List.find?_some found
        rw [eq_of_id (List.mem_of_find?_eq_some found) member same]

theorem mem_close {cs : Connections} {id : ℕ} {conn : Connection} :
    conn ∈ (cs.close id).list ↔ conn ∈ cs.list ∧ conn.id ≠ id := by
  simp [close]

/-- An update keeps the id and the descriptor of every connection. -/
theorem mem_update {cs : Connections} (id : ℕ) (session : Session) (lastActiveMs : ℤ)
    {conn : Connection} (member : conn ∈ cs.list) :
    ∃ kept ∈ (cs.update id session lastActiveMs).list, kept.id = conn.id ∧ kept.fd = conn.fd :=
  ⟨_, List.mem_map_of_mem member, updated_id .., updated_fd ..⟩

end Connections

/-! ## The connection table -/

/-- `MAX_CONN`. -/
def maxConn : ℕ := 1024

/-- `register_connection`: a connection beyond the table's room is not entered. -/
def registerConnection (table : List ℕ) (id : ℕ) : List ℕ :=
  if table.length < maxConn then table ++ [id] else table

/-- `unregister_connection`: the last entry takes the place of the removed one. -/
def unregisterConnection (table : List ℕ) (id : ℕ) : List ℕ :=
  match table.findIdx? fun entry => decide (entry = id) with
  | none => table
  | some i => (table.set i (table.getLastD 0)).dropLast

/-- Every entry left was there before. -/
theorem unregisterConnection_subset (table : List ℕ) (id : ℕ) :
    unregisterConnection table id ⊆ table := by
  rw [unregisterConnection]
  split
  · exact List.Subset.refl _
  · rename_i i found
    intro entry member
    have bound := (List.findIdx?_eq_some_iff_getElem.mp found).1
    rcases List.mem_or_eq_of_mem_set (List.mem_of_mem_dropLast member) with old | rfl
    · exact old
    · have nonempty : table ≠ [] := List.ne_nil_of_length_pos (by omega)
      rw [List.getLastD_eq_getLast?, List.getLast?_eq_some_getLast nonempty]
      exact List.getLast_mem nonempty

end EquipmentControl
