import EquipmentControl.Equipmentd.ConnectionTable

/-!
# The idle scan

`scan_connection_timeout` (`services/equipmentd/src/connection_table.c`) removes entries from the
table it walks: closing the connection at an index moves the last entry there, and the index is
looked at again. `scanLoop` is that loop with the connections it closes, in order. It runs until
the index passes the end of the table; without enough fuel, or on an entry whose connection is gone,
it has no result.

Each round passes an entry or shortens the table, so a round more than entries is enough. The loop
closes the idle connections of the table, each once, and leaves the others in it
(`scan_closes_idle`). The daemon's `scanConnectionTimeout` is this loop (`scanLoop_eq`).
-/

set_option autoImplicit false

namespace EquipmentControl

open SlotTable

section IdleScan

variable {δ : Type}

/-- The loop of `scan_connection_timeout` at index `i`, with the connections closed so far. -/
def scanLoop (nowMs : ℤ) :
    ℕ → ℕ → Daemon δ → List Connection → Option (Daemon δ × List Connection)
  | 0, _, _, _ => none
  | fuel + 1, i, d, closed =>
      match d.connTable[i]? with
      | none => some (d, closed)
      | some id =>
          match d.conns.find id with
          | none => none
          | some conn =>
              if isIdle nowMs conn then
                scanLoop nowMs fuel i (closeConnection d id) (closed ++ [conn])
              else scanLoop nowMs fuel (i + 1) d closed

/-- The table holds open connections only, each at most once. -/
structure TableOfOpen (d : Daemon δ) : Prop where
  distinct : d.connTable.Nodup
  isOpen : ∀ id ∈ d.connTable, ∃ conn ∈ d.conns.list, conn.id = id

/-- The entry of a connection that a scan closes. -/
def idleEntry (d : Daemon δ) (nowMs : ℤ) (id : ℕ) : Bool :=
  (d.conns.find id).any (isIdle nowMs)

theorem idleEntry_of_mem {d : Daemon δ} {conn : Connection} (member : conn ∈ d.conns.list)
    (nowMs : ℤ) : idleEntry d nowMs conn.id = isIdle nowMs conn := by
  rw [idleEntry, Connections.find_eq_some.mpr ⟨member, rfl⟩, Option.any_some]

/-! ## Closing the entry at an index -/

/-- In a table of distinct entries the entry removed is the one at the index. -/
theorem closeConnection_table {d : Daemon δ} (table : TableOfOpen d) {i id : ℕ}
    (entry : d.connTable[i]? = some id) :
    (closeConnection d id).connTable = fillHole d.connTable i 0 := by
  obtain ⟨bound, here⟩ := List.getElem?_eq_some_iff.mp entry
  have first : d.connTable.findIdx? (fun other => decide (other = id)) = some i := by
    refine List.findIdx?_eq_some_iff_getElem.mpr ⟨bound, by simpa using here, fun j before => ?_⟩
    have differs : d.connTable[j] ≠ d.connTable[i] := by
      intro same
      exact absurd ((table.distinct.getElem_inj_iff).mp same) (Nat.ne_of_lt before)
    simpa [← here] using differs
  simp only [closeConnection, unregisterConnection, first]
  rfl

/-- Closing leaves a table of open connections. -/
theorem TableOfOpen.close {d : Daemon δ} (table : TableOfOpen d) (id : ℕ) :
    TableOfOpen (closeConnection d id) := by
  have entries := unregisterConnection_perm d.connTable id
  refine ⟨entries.nodup_iff.mpr (table.distinct.erase id), fun other member => ?_⟩
  have before := entries.mem_iff.mp member
  obtain ⟨conn, isOpen, rfl⟩ := table.isOpen other (List.mem_of_mem_erase before)
  refine ⟨conn, Connections.mem_close.mpr ⟨isOpen, ?_⟩, rfl⟩
  rintro rfl
  exact absurd before table.distinct.not_mem_erase

/-! ## The loop -/

/-- What the loop does from an index on, in terms of which entries are idle. -/
structure ScanOutcome (idle : ℕ → Bool) (i : ℕ) (d after : Daemon δ) (closed : List Connection) :
    Prop where
  closes : (closed.map Connection.id).Perm ((d.connTable.drop i).filter idle)
  keeps : after.connTable.Perm
    (d.connTable.take i ++ (d.connTable.drop i).filter fun id => !idle id)
  openBefore : ∀ conn ∈ closed, conn ∈ d.conns.list
  leaves : ∀ conn, conn ∈ after.conns.list ↔
    conn ∈ d.conns.list ∧ conn.id ∉ closed.map Connection.id

/-- At the end of the table nothing is left to do. -/
theorem ScanOutcome.finished {idle : ℕ → Bool} {i : ℕ} {d : Daemon δ}
    (passed : d.connTable.length ≤ i) : ScanOutcome idle i d d [] where
  closes := by rw [List.drop_of_length_le passed]; rfl
  keeps := by
    rw [List.drop_of_length_le passed, List.take_of_length_le passed, List.filter_nil,
      List.append_nil]
  openBefore conn member := (List.not_mem_nil member).elim
  leaves conn := by simp

/-- An entry that is not idle is passed. -/
theorem ScanOutcome.pass {idle : ℕ → Bool} {i id : ℕ} {d after : Daemon δ}
    {closed : List Connection} (entry : d.connTable[i]? = some id) (active : idle id = false)
    (outcome : ScanOutcome idle (i + 1) d after closed) : ScanOutcome idle i d after closed where
  closes := by
    obtain ⟨bound, here⟩ := List.getElem?_eq_some_iff.mp entry
    rw [List.drop_eq_getElem_cons bound, here, List.filter_cons_of_neg (by simp [active])]
    exact outcome.closes
  keeps := by
    obtain ⟨bound, here⟩ := List.getElem?_eq_some_iff.mp entry
    have rest := outcome.keeps
    rw [List.take_succ_eq_append_getElem bound, here, List.append_assoc] at rest
    rwa [List.drop_eq_getElem_cons bound, here, List.filter_cons_of_pos (by simp [active])]
  openBefore := outcome.openBefore
  leaves := outcome.leaves

/-- The connection of an idle entry is closed, and the index looked at again. -/
theorem ScanOutcome.close {idle : ℕ → Bool} {i : ℕ} {d after : Daemon δ} {conn : Connection}
    {closed : List Connection} (table : TableOfOpen d) (member : conn ∈ d.conns.list)
    (entry : d.connTable[i]? = some conn.id) (expired : idle conn.id = true)
    (outcome : ScanOutcome idle i (closeConnection d conn.id) after closed) :
    ScanOutcome idle i d after (conn :: closed) := by
  obtain ⟨bound, here⟩ := List.getElem?_eq_some_iff.mp entry
  have entries := closeConnection_table table entry
  have behind := fillHole_drop_perm bound 0
  have front := fillHole_take bound 0
  obtain ⟨closes, keeps, openBefore, leaves⟩ := outcome
  rw [entries] at closes keeps
  rw [front] at keeps
  refine ⟨?_, ?_, fun other opened => ?_, fun other => ?_⟩
  · rw [List.drop_eq_getElem_cons bound, here, List.filter_cons_of_pos expired, List.map_cons]
    exact (closes.trans (behind.filter idle)).cons conn.id
  · rw [List.drop_eq_getElem_cons bound, here, List.filter_cons_of_neg (by simp [expired])]
    exact keeps.trans ((behind.filter _).append_left _)
  · rcases List.mem_cons.mp opened with rfl | later
    · exact member
    · exact (Connections.mem_close.mp (openBefore other later)).1
  · rw [leaves, closeConnection, Connections.mem_close, List.map_cons, List.mem_cons, not_or,
      and_assoc]

/-- **The loop ends**, with a round for every entry and one more, and does what it should. -/
theorem scanLoop_outcome {nowMs : ℤ} {idle : ℕ → Bool} (fuel i : ℕ) {d : Daemon δ}
    (table : TableOfOpen d)
    (judged : ∀ conn ∈ d.conns.list, idle conn.id = isIdle nowMs conn)
    (enough : d.connTable.length < i + fuel) (inside : i ≤ d.connTable.length)
    (before : List Connection) :
    ∃ after closed, scanLoop nowMs fuel i d before = some (after, before ++ closed) ∧
      ScanOutcome idle i d after closed := by
  induction fuel generalizing i d before with
  | zero => exact absurd inside (by omega)
  | succ fuel ih =>
  rw [scanLoop]
  cases entry : d.connTable[i]? with
  | none =>
      have passed := List.getElem?_eq_none_iff.mp entry
      exact ⟨d, [], by rw [List.append_nil], .finished passed⟩
  | some id =>
  obtain ⟨bound, _⟩ := List.getElem?_eq_some_iff.mp entry
  obtain ⟨conn, member, rfl⟩ := table.isOpen id (List.mem_of_getElem? entry)
  simp only [Connections.find_eq_some.mpr ⟨member, rfl⟩]
  by_cases expired : isIdle nowMs conn = true
  · rw [if_pos expired]
    have shorter : (closeConnection d conn.id).connTable.length = d.connTable.length - 1 := by
      rw [closeConnection_table table entry, fillHole_length]
    obtain ⟨after, closed, ends, outcome⟩ := ih i (table.close conn.id)
      (fun other opened => judged other (Connections.mem_close.mp opened).1) (by omega) (by omega)
      (before ++ [conn])
    refine ⟨after, conn :: closed, ?_, outcome.close table member entry ?_⟩
    · rw [ends, List.append_assoc, List.singleton_append]
    · rw [judged conn member, expired]
  · rw [if_neg expired]
    obtain ⟨after, closed, ends, outcome⟩ := ih (i + 1) table judged (by omega) bound before
    refine ⟨after, closed, ends, outcome.pass entry ?_⟩
    rw [judged conn member]
    exact Bool.eq_false_iff.mpr expired

/-- More fuel does not change a result. -/
theorem scanLoop_more {nowMs : ℤ} (fuel more i : ℕ) {d : Daemon δ} {before : List Connection}
    {result : Daemon δ × List Connection} (ends : scanLoop nowMs fuel i d before = some result) :
    scanLoop nowMs (fuel + more) i d before = some result := by
  induction fuel generalizing i d before with
  | zero => cases ends
  | succ fuel ih =>
  rw [Nat.succ_add]
  rw [scanLoop] at ends ⊢
  cases entry : d.connTable[i]? with
  | none => simpa only [entry] using ends
  | some id =>
  simp only [entry] at ends ⊢
  cases found : d.conns.find id with
  | none => simp only [found, reduceCtorEq] at ends
  | some conn =>
  simp only [found] at ends ⊢
  split
  · rename_i expired
    rw [if_pos expired] at ends
    exact ih i ends
  · rename_i active
    rw [if_neg active] at ends
    exact ih (i + 1) ends

/-- The loop without its record is the scan of the daemon. -/
theorem scanLoop_eq {nowMs : ℤ} (fuel i rounds : ℕ) {d after : Daemon δ}
    {before closed : List Connection}
    (ends : scanLoop nowMs fuel i d before = some (after, closed))
    (enough : d.connTable.length ≤ i + rounds) (table : TableOfOpen d) :
    scanFrom nowMs rounds i d = after := by
  induction fuel generalizing i rounds d before with
  | zero => cases ends
  | succ fuel ih =>
  rw [scanLoop] at ends
  cases entry : d.connTable[i]? with
  | none =>
      simp only [entry, Option.some.injEq, Prod.mk.injEq] at ends
      rw [← ends.1]
      cases rounds with
      | zero => rfl
      | succ rounds => simp only [scanFrom, entry]
  | some id =>
  obtain ⟨bound, _⟩ := List.getElem?_eq_some_iff.mp entry
  cases rounds with
  | zero => omega
  | succ rounds =>
  simp only [scanFrom, entry] at ends ⊢
  cases found : d.conns.find id with
  | none => simp only [found, reduceCtorEq] at ends
  | some conn =>
  simp only [found] at ends ⊢
  split
  · rename_i expired
    rw [if_pos expired] at ends
    refine ih i rounds ends ?_ (table.close id)
    rw [closeConnection_table table entry, fillHole_length]
    omega
  · rename_i active
    rw [if_neg active] at ends
    exact ih (i + 1) rounds ends (by omega) table

/-! ## The scan -/

/-- What a scan has to do: end, close the idle connections of the table, each once, and leave the
others open and in the table, each once. -/
structure ClosesIdle (nowMs : ℤ) (d after : Daemon δ) (closed : List Connection) : Prop where
  once : closed.Nodup
  idle : ∀ conn, conn ∈ closed ↔
    conn ∈ d.conns.list ∧ conn.id ∈ d.connTable ∧ isIdle nowMs conn = true
  leftOnce : after.connTable.Nodup
  left : ∀ conn ∈ d.conns.list, conn.id ∈ after.connTable ↔
    conn.id ∈ d.connTable ∧ isIdle nowMs conn = false
  noOther : after.connTable ⊆ d.connTable
  leftOpen : ∀ conn, conn ∈ after.conns.list ↔ conn ∈ d.conns.list ∧ conn ∉ closed

theorem ScanOutcome.closesIdle {nowMs : ℤ} {d after : Daemon δ} {closed : List Connection}
    (outcome : ScanOutcome (idleEntry d nowMs) 0 d after closed) (table : TableOfOpen d) :
    ClosesIdle nowMs d after closed := by
  obtain ⟨closes, keeps, openBefore, leaves⟩ := outcome
  rw [List.drop_zero] at closes keeps
  rw [List.take_zero, List.nil_append] at keeps
  have idClosed : ∀ conn ∈ d.conns.list,
      conn.id ∈ closed.map Connection.id ↔ conn ∈ closed := by
    refine fun conn member => ⟨fun entry => ?_, List.mem_map_of_mem⟩
    obtain ⟨other, inClosed, same⟩ := List.mem_map.mp entry
    exact Connections.eq_of_id (openBefore other inClosed) member same ▸ inClosed
  refine ⟨(closes.nodup_iff.mpr (table.distinct.filter _)).of_map _, fun conn => ?_,
    keeps.nodup_iff.mpr (table.distinct.filter _), fun conn member => ?_,
    fun id entry => List.mem_of_mem_filter (keeps.mem_iff.mp entry), fun conn => ?_⟩
  · constructor
    · intro inClosed
      have member := openBefore conn inClosed
      have entry := closes.mem_iff.mp (List.mem_map_of_mem inClosed)
      rw [List.mem_filter, idleEntry_of_mem member] at entry
      exact ⟨member, entry⟩
    · rintro ⟨member, entry, expired⟩
      refine (idClosed conn member).mp (closes.mem_iff.mpr (List.mem_filter.mpr ⟨entry, ?_⟩))
      rw [idleEntry_of_mem member, expired]
  · rw [keeps.mem_iff, List.mem_filter, idleEntry_of_mem member, Bool.not_eq_true']
  · rw [leaves]
    exact and_congr_right fun member => not_congr (idClosed conn member)

/-- **The scan ends and closes exactly the idle connections of its table**, each once, and leaves
the others open and in the table, each once. -/
theorem scan_closes_idle (d : Daemon δ) (table : TableOfOpen d) (nowMs : ℤ) :
    ∃ closed, (∀ fuel, d.connTable.length < fuel →
        scanLoop nowMs fuel 0 d [] = some (scanConnectionTimeout d nowMs, closed)) ∧
      ClosesIdle nowMs d (scanConnectionTimeout d nowMs) closed := by
  obtain ⟨after, closed, ends, outcome⟩ := scanLoop_outcome (d.connTable.length + 1) 0 table
    (fun conn member => idleEntry_of_mem member nowMs) (by omega) (Nat.zero_le _) []
  have same : scanConnectionTimeout d nowMs = after := scanLoop_eq _ 0 _ ends (by omega) table
  rw [same]
  refine ⟨closed, fun fuel enough => ?_, outcome.closesIdle table⟩
  obtain ⟨more, rfl⟩ := Nat.exists_eq_add_of_le enough
  exact scanLoop_more _ more 0 ends

end IdleScan

/-- Three connections, the second of which has been active at 50000. -/
def threeConnections : Daemon ℚ :=
  daemonMachine.run daemonInit [.accept 5 0 true, .accept 6 50000 true, .accept 7 100 true]

/-- A scan at 61000 closes the first and the last, which is moved to the front in between. -/
theorem scan_closes_idle_three :
    ∃ closed, (∀ fuel, threeConnections.connTable.length < fuel →
        scanLoop 61000 fuel 0 threeConnections [] =
          some (scanConnectionTimeout threeConnections 61000, closed)) ∧
      ClosesIdle 61000 threeConnections (scanConnectionTimeout threeConnections 61000) closed :=
  scan_closes_idle threeConnections ⟨by decide, by decide⟩ 61000

end EquipmentControl
