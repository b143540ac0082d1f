import EquipmentControl.Equipmentd.Daemon
import EquipmentControl.Library.SlotTable

/-!
# The connection table

The table that the idle scan walks is meant to hold every open connection once and nothing else
(`services/equipmentd/src/connection_table.c`). Removal moves the last entry into the hole, and a
scan removes entries while it walks, so both keep the table in step with the open connections.

`registerConnection` drops a connection that finds the table full, and its caller does not notice:
the table is in step along a run exactly when every accept finds fewer than `maxConn` connections
open (`connection_table_exact_iff`).
-/

set_option autoImplicit false

namespace EquipmentControl

open InputMachine SlotTable

/-! ## The operations on the table -/

/-- The ids of the open connections. -/
def Connections.ids (cs : Connections) : List ℕ := cs.list.map Connection.id

/-- The entry is removed as from any dense table. -/
theorem unregisterConnection_eq (table : List ℕ) (id : ℕ) :
    unregisterConnection table id = removeFirst table id 0 := by
  rw [unregisterConnection, removeFirst]
  cases table.findIdx? fun entry => decide (entry = id) <;> rfl

/-- **Removal removes the entry**, and changes the order of the others at most. -/
theorem unregisterConnection_perm (table : List ℕ) (id : ℕ) :
    (unregisterConnection table id).Perm (table.erase id) := by
  rw [unregisterConnection_eq]
  exact removeFirst_perm table id 0

theorem Connections.ids_close (cs : Connections) (id : ℕ) :
    (cs.close id).ids = cs.ids.erase id := by
  have distinct : cs.ids.Nodup := cs.distinctIds
  rw [distinct.erase_eq_filter, Connections.ids, Connections.ids, List.filter_map]
  refine congrArg _ (List.filter_congr fun conn _ => Bool.eq_iff_iff.mpr ?_)
  simp

theorem Connections.ids_update (cs : Connections) (id : ℕ) (session : Session)
    (lastActiveMs : ℤ) : (cs.update id session lastActiveMs).ids = cs.ids := by
  rw [Connections.ids, Connections.update, List.map_map]
  exact List.map_congr_left fun conn _ => Connections.updated_id id session lastActiveMs conn

section Table

variable {δ : Type}

/-- The table holds every open connection exactly once and no closed one. -/
def TableExact (d : Daemon δ) : Prop := d.connTable.Perm d.conns.ids

theorem TableExact.close {d : Daemon δ} (exact : TableExact d) (id : ℕ) :
    TableExact (closeConnection d id) := by
  have entries := (unregisterConnection_perm d.connTable id).trans (exact.erase id)
  rwa [← Connections.ids_close] at entries

theorem TableExact.feed {d : Daemon δ} (exact : TableExact d) (id : ℕ) (data : Bytes)
    (nowMs : ℤ) : TableExact (feedConnection d id data nowMs) := by
  rcases feedConnection_cases d id data nowMs with same | ⟨conn, _, _, ⟨_, same⟩ | ⟨session, same⟩⟩
  all_goals rw [same]
  · exact exact
  · exact exact.close conn.id
  · rw [TableExact, Connections.ids_update]
    exact exact

theorem TableExact.hangUp {d : Daemon δ} (exact : TableExact d) (id : ℕ) :
    TableExact (hangUpConnection d id) := by
  rcases hangUpConnection_cases d id with same | ⟨conn, _, _, same⟩
  all_goals rw [same]
  · exact exact
  · exact TableExact.close (d := { d with ctx := dropLinks d.ctx conn.fd }) exact conn.id

theorem TableExact.scan {d : Daemon δ} (exact : TableExact d) (nowMs : ℤ) :
    TableExact (scanConnectionTimeout d nowMs) :=
  scanConnectionTimeout_preserves nowMs (fun _ conn exact _ _ _ => exact.close conn.id) exact

/-- An accept that opens a connection. -/
structure Opens (d : Daemon δ) (fd : ℤ) (setUp : Bool) : Prop where
  accepted : 0 ≤ fd
  setUp : setUp = true
  closed : fd ∉ d.conns.list.map Connection.fd

theorem acceptConnection_of_opens {d : Daemon δ} {fd : ℤ} {setUp : Bool} (opens : Opens d fd setUp)
    (nowMs : ℤ) :
    acceptConnection d fd nowMs setUp =
      { d with
        conns := d.conns.add fd nowMs opens.closed
        connTable := registerConnection d.connTable d.conns.nextId } := by
  have succeeded : ¬ (fd < 0 ∨ setUp = false) := by
    rintro (negative | failed)
    · exact absurd opens.accepted (not_le.mpr negative)
    · cases opens.setUp.symm.trans failed
  rw [acceptConnection, if_neg succeeded, dif_pos opens.closed]

theorem acceptConnection_of_not_opens {d : Daemon δ} {fd : ℤ} {setUp : Bool}
    (unopened : ¬ Opens d fd setUp) (nowMs : ℤ) : acceptConnection d fd nowMs setUp = d := by
  rw [acceptConnection]
  split
  · rfl
  rename_i succeeded
  obtain ⟨accepted, setUp⟩ := not_or.mp succeeded
  split
  · rename_i closed
    exact absurd ⟨not_lt.mp accepted, Bool.eq_true_of_not_eq_false setUp, closed⟩ unopened
  · rfl

/-- A connection that is opened is entered exactly when there is room for it. -/
theorem TableExact.accept_iff {d : Daemon δ} (exact : TableExact d) (fd nowMs : ℤ)
    (setUp : Bool) :
    TableExact (acceptConnection d fd nowMs setUp) ↔
      (Opens d fd setUp → d.conns.list.length < maxConn) := by
  have length : d.connTable.length = d.conns.list.length := by
    rw [exact.length_eq, Connections.ids, List.length_map]
  by_cases opens : Opens d fd setUp
  · rw [acceptConnection_of_opens opens, ← length, TableExact, registerConnection]
    have ids : (d.conns.add fd nowMs opens.closed).ids = d.conns.nextId :: d.conns.ids := rfl
    by_cases room : d.connTable.length < maxConn
    · refine iff_of_true ?_ fun _ => room
      rw [if_pos room, ids]
      exact (List.perm_append_singleton _ _).trans (exact.cons _)
    · refine iff_of_false (fun entered => ?_) fun all => room (all opens)
      rw [if_neg room, ids] at entered
      have more := entered.length_eq
      rw [exact.length_eq, List.length_cons] at more
      omega
  · rw [acceptConnection_of_not_opens opens]
    exact iff_of_true exact fun opens' => absurd opens' opens

/-! ## What a scan leaves open -/

/-- The entries in front of an index are of connections that are not idle. -/
def PassedTo (nowMs : ℤ) (i : ℕ) (d : Daemon δ) : Prop :=
  ∀ j < i, ∀ id, d.connTable[j]? = some id →
    ∀ conn, d.conns.find id = some conn → isIdle nowMs conn = false

/-- Closing the idle connection at an index keeps the entries in front of it. -/
theorem PassedTo.close {nowMs : ℤ} {i : ℕ} {d : Daemon δ} (passed : PassedTo nowMs i d) {id : ℕ}
    {conn : Connection} (entry : d.connTable[i]? = some id) (found : d.conns.find id = some conn)
    (idle : isIdle nowMs conn = true) :
    PassedTo nowMs i (closeConnection d id) ∧
      (closeConnection d id).connTable.length = d.connTable.length - 1 := by
  -- The entry removed is the first with the id, and no entry before `i` is of this connection.
  have hole : ∃ k, i ≤ k ∧ k < d.connTable.length ∧
      (closeConnection d id).connTable = fillHole d.connTable k 0 := by
    simp only [closeConnection, unregisterConnection]
    cases first : d.connTable.findIdx? fun other => decide (other = id) with
    | none =>
        have absent := List.findIdx?_eq_none_iff.mp first id (List.mem_of_getElem? entry)
        simp at absent
    | some k =>
        obtain ⟨bound, here, _⟩ := List.findIdx?_eq_some_iff_getElem.mp first
        refine ⟨k, ?_, bound, rfl⟩
        by_contra before
        have same : d.connTable[k]? = some id := by
          rw [List.getElem?_eq_getElem bound]
          simpa using here
        cases (passed k (not_le.mp before) id same conn found).symm.trans idle
  obtain ⟨k, after, bound, table⟩ := hole
  rw [table, fillHole_length]
  refine ⟨fun j before other entry conn found => ?_, rfl⟩
  rw [table, fillHole_getElem? bound (by omega)] at entry
  obtain ⟨kept, same⟩ := Connections.find_eq_some.mp found
  exact passed j before other entry conn
    (Connections.find_eq_some.mpr ⟨(Connections.mem_close.mp kept).1, same⟩)

/-- No entry is of an idle connection. -/
def PassedAll (nowMs : ℤ) (d : Daemon δ) : Prop :=
  ∀ id ∈ d.connTable, ∀ conn, d.conns.find id = some conn → isIdle nowMs conn = false

theorem PassedTo.all {nowMs : ℤ} {i : ℕ} {d : Daemon δ} (passed : PassedTo nowMs i d)
    (finished : d.connTable.length ≤ i) : PassedAll nowMs d := by
  intro id member
  obtain ⟨j, bound, rfl⟩ := List.mem_iff_getElem.mp member
  exact passed j (by omega) _ (List.getElem?_eq_getElem bound)

/-- The scan's loop passes every entry of the table it leaves. -/
theorem scanFrom_passed {nowMs : ℤ} (rounds i : ℕ) {d : Daemon δ} (passed : PassedTo nowMs i d)
    (enough : d.connTable.length ≤ i + rounds) : PassedAll nowMs (scanFrom nowMs rounds i d) := by
  induction rounds generalizing i d with
  | zero => exact passed.all enough
  | succ rounds ih =>
      -- An entry that is not of an idle connection is passed.
      have extend : ∀ id, d.connTable[i]? = some id →
          (∀ conn, d.conns.find id = some conn → isIdle nowMs conn = false) →
          PassedTo nowMs (i + 1) d := by
        intro id entry here j before other same
        rcases (Nat.lt_succ_iff.mp before).lt_or_eq with front | rfl
        · exact passed j front other same
        · cases entry.symm.trans same
          exact here
      rw [scanFrom]
      split
      · rename_i finished
        exact passed.all (List.getElem?_eq_none_iff.mp finished)
      rename_i id entry
      split
      · rename_i closed
        refine ih (i + 1) (extend id entry fun conn opened => ?_) (by omega)
        cases closed.symm.trans opened
      rename_i conn found
      split
      · rename_i idle
        obtain ⟨still, length⟩ := passed.close entry found idle
        obtain ⟨bound, _⟩ := List.getElem?_eq_some_iff.mp entry
        exact ih i still (by omega)
      · rename_i active
        refine ih (i + 1) (extend id entry fun other same => ?_) (by omega)
        cases found.symm.trans same
        exact Bool.eq_false_iff.mpr active

/-- **After a scan of an exact table no idle connection is open.** -/
theorem TableExact.scanned {d : Daemon δ} (exact : TableExact d) (nowMs : ℤ) :
    ∀ conn ∈ (scanConnectionTimeout d nowMs).conns.list, isIdle nowMs conn = false := by
  intro conn member
  have entered : conn.id ∈ (scanConnectionTimeout d nowMs).connTable :=
    (exact.scan nowMs).mem_iff.mpr (List.mem_map_of_mem member)
  have passed : PassedTo nowMs 0 d := fun j before => absurd before (Nat.not_lt_zero j)
  exact scanFrom_passed d.connTable.length 0 passed (by omega) conn.id entered conn
    (Connections.find_eq_some.mpr ⟨member, rfl⟩)

/-! ## Runs -/

/-- The table is exact, and so a scan at any time leaves no idle connection open. -/
structure TableInStep (d : Daemon δ) : Prop where
  exact : TableExact d
  scanned : ∀ nowMs, ∀ conn ∈ (scanConnectionTimeout d nowMs).conns.list,
    isIdle nowMs conn = false

theorem tableInStep_iff (d : Daemon δ) : TableInStep d ↔ TableExact d :=
  ⟨TableInStep.exact, fun exact => ⟨exact, exact.scanned⟩⟩

/-- An accept that opens a connection finds fewer than `maxConn` open. -/
def RoomToAccept (d : Daemon δ) : DaemonInput → Prop
  | .accept fd _ setUp => Opens d fd setUp → d.conns.list.length < maxConn
  | _ => True

variable [CDouble δ]

/-- A pop keeps the table exact. -/
theorem TableExact.pop {d : Daemon δ} (exact : TableExact d) (id : ℕ) (nowMs : ℤ)
    (writeOk : Bool) : TableExact (popConnection d id nowMs writeOk).1 := by
  rcases popConnection_cases d id nowMs writeOk with same | ⟨conn, line, rest, _, same⟩
  all_goals rw [same]
  · exact exact
  have served : TableExact (afterServing d conn line rest nowMs writeOk) := by
    rw [TableExact, afterServing, Connections.ids_update]
    exact exact
  dsimp only
  split
  · exact served.close conn.id
  · exact served

/-- **One piece of work keeps the table exact** exactly when it opens no connection too many. -/
theorem TableExact.step_iff {d : Daemon δ} (exact : TableExact d) (input : DaemonInput) :
    TableExact (daemonMachine.step d input).1 ↔ RoomToAccept d input := by
  cases input with
  | accept fd nowMs setUp => exact exact.accept_iff fd nowMs setUp
  | feed id data nowMs => exact iff_of_true (exact.feed id data nowMs) trivial
  | pop id nowMs writeOk => exact iff_of_true (exact.pop id nowMs writeOk) trivial
  | hangUp id => exact iff_of_true (exact.hangUp id) trivial
  | runScheduler healthMs createdMs writeOk => exact iff_of_true exact trivial
  | sweepRequests nowMs => exact iff_of_true exact trivial
  | scanConnections nowMs => exact iff_of_true (exact.scan nowMs) trivial

/-- **The table holds every open connection once and no closed one** in every state of a run, and
leaves no idle connection to a scan, exactly when every accept finds fewer than `maxConn` connections
open. -/
theorem connection_table_exact_iff (inputs : List DaemonInput) :
    (∀ before, before <+: inputs →
        TableInStep (daemonMachine.run (daemonInit : Daemon δ) before)) ↔
      daemonMachine.Along RoomToAccept (daemonInit : Daemon δ) inputs := by
  refine Machine.invariant_iff_along (I := fun _ => True) (P := fun _ _ => True)
    (fun _ _ _ _ => trivial) (fun d input _ _ inStep => ?_) trivial ?_
    (Machine.along_of_forall (R := fun _ => True) fun _ _ => trivial)
  · rw [tableInStep_iff]
    exact inStep.exact.step_iff input
  · exact (tableInStep_iff _).mpr (List.Perm.refl [])

end Table

/-- Connections that are accepted one after the other, on descriptors from 5 on. -/
def accepts (count : ℕ) : List DaemonInput :=
  (List.range count).map fun (i : ℕ) => .accept (i + 5) 0 true

/-- All of them are open, and the table holds as many of them as it has room for. -/
theorem run_accepts (count : ℕ) :
    let d := daemonMachine.run (daemonInit : Daemon ℚ) (accepts count)
    d.conns.list.length = count ∧ d.connTable.length = min count maxConn ∧
      ∀ fd ∈ d.conns.list.map Connection.fd, fd < count + 5 := by
  induction count with
  | zero => exact ⟨rfl, rfl, by intro fd member; cases member⟩
  | succ count ih =>
      rw [accepts, List.range_succ, List.map_append, List.map_singleton, ← accepts,
        Machine.run_concat]
      generalize daemonMachine.run (daemonInit : Daemon ℚ) (accepts count) = d at ih ⊢
      obtain ⟨opened, entered, below⟩ := ih
      have opens : Opens d (count + 5) true := by
        refine ⟨by omega, rfl, fun member => ?_⟩
        exact absurd (below _ member) (lt_irrefl _)
      have accepted : (daemonMachine.step d (.accept (count + 5) 0 true)).1 =
          acceptConnection d (count + 5) 0 true := rfl
      rw [accepted, acceptConnection_of_opens opens]
      refine ⟨congrArg (· + 1) opened, ?_, fun fd member => ?_⟩
      · change (registerConnection d.connTable d.conns.nextId).length = _
        rw [registerConnection]
        split
        · rw [List.length_append, List.length_singleton]
          omega
        · omega
      · push_cast
        rcases List.mem_cons.mp member with rfl | old
        · change (count : ℤ) + 5 < count + 1 + 5
          omega
        · have := below fd old
          omega

/-- The table misses the last of 1025 open connections. -/
theorem crowded_connection_missed :
    ¬ ∀ before, before <+: accepts 1025 →
      TableInStep (daemonMachine.run (daemonInit : Daemon ℚ) before) := by
  intro inStep
  have entries := (inStep (accepts 1025) (List.prefix_refl _)).exact.length_eq
  obtain ⟨opened, entered, _⟩ := run_accepts 1025
  rw [entered, Connections.ids, List.length_map, opened] at entries
  exact absurd entries (by decide)

end EquipmentControl
