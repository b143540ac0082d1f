import EquipmentControl.Library.Machine
import EquipmentControl.Pmc.EqdRequests
import Mathlib.Data.List.Nodup

/-!
# The interlock over runs of the process controller

The process controller from its connection to equipmentd on: peers connect, register, send messages
and disconnect, in any order (`pmc_connection.c` and the loops of `main.c` in `nodes/pmc/src`).
`PmcNode` carries what the allocator and the operating system guarantee of the connections, as
`Connections` does for equipmentd.

The state a connection remembers is the one it reported last since it registered
(`Remembered`). So whatever is written to a sim was let through by the interlock on that report, and
by the aux device if it concerns module 1 (`writes_interlocked`).
-/

set_option autoImplicit false

namespace EquipmentControl

open InputMachine

/-- `pmc_conn_add` of a new connection. -/
def pmcConnAdd (conns : List PmcConnection) (id : ℕ) (fd : ℤ) : List PmcConnection :=
  ⟨id, fd, .unknown, false, -1, .empty 31, false⟩ :: conns

/-- `pmc_conn_remove`. -/
def pmcConnRemove (conns : List PmcConnection) (id : ℕ) : List PmcConnection :=
  conns.filter fun conn => decide (conn.id ≠ id)

/-- The connection of a peer, as `pmc_conn_add` finds them in its list. -/
def pmcFindConn (conns : List PmcConnection) (id : ℕ) : Option PmcConnection :=
  conns.find? fun conn => decide (conn.id = id)

theorem pmcFindConn_some {conns : List PmcConnection} {id : ℕ} {conn : PmcConnection}
    (found : pmcFindConn conns id = some conn) : conn ∈ conns ∧ conn.id = id :=
  ⟨List.mem_of_find?_eq_some found, by simpa using List.find?_some found⟩

/-- The state in which the interlock lets a command pass. -/
def interlockState : MsgType → Option Bytes
  | .start => some (ascii "IDLE")
  | .stop => some (ascii "PROCESSING")
  | .reset => some (ascii "FAULT")
  | _ => none

/-- The interlock lets a command pass in its state only. -/
theorem pmcInterlockCheck_state {sim : PmcConnection} {type : MsgType} {required : Bytes}
    (passes : pmcInterlockCheck sim type = true) (command : interlockState type = some required) :
    sim.hasState = true ∧ sim.state.bytes = required := by
  cases type <;> cases command
  all_goals
    obtain ⟨known, state⟩ := Bool.and_eq_true_iff.mp passes
    exact ⟨known, of_decide_eq_true state⟩

/-! ## Connections that are updated -/

/-- Two lists of connections have the same ids and descriptors. -/
def SameKeys (first second : List PmcConnection) : Prop :=
  first.map PmcConnection.id = second.map PmcConnection.id ∧
    first.map PmcConnection.fd = second.map PmcConnection.fd

theorem SameKeys.refl (conns : List PmcConnection) : SameKeys conns conns := ⟨rfl, rfl⟩

/-- An updated connection keeps its place. -/
theorem updateConn_keys {conns : List PmcConnection} {conn : PmcConnection}
    (distinct : (conns.map PmcConnection.id).Nodup) (member : conn ∈ conns)
    {updated : PmcConnection} (sameId : updated.id = conn.id) (sameFd : updated.fd = conn.fd) :
    SameKeys (updateConn conns updated) conns := by
  have keys : ∀ other ∈ conns, (if other.id = updated.id then updated else other).id = other.id ∧
      (if other.id = updated.id then updated else other).fd = other.fd := by
    intro other otherMember
    split
    · rename_i same
      have here : other = conn :=
        List.inj_on_of_nodup_map distinct otherMember member (same.trans sameId)
      rw [here]
      exact ⟨sameId, sameFd⟩
    · exact ⟨rfl, rfl⟩
  constructor
  · rw [updateConn, List.map_map]
    exact List.map_congr_left fun other otherMember => (keys other otherMember).1
  · rw [updateConn, List.map_map]
    exact List.map_congr_left fun other otherMember => (keys other otherMember).2

/-- A connection after an update is the updated one, or another that was there before. -/
theorem mem_updateConn {conns : List PmcConnection} {updated conn : PmcConnection}
    (member : conn ∈ updateConn conns updated) :
    conn = updated ∨ conn ∈ conns ∧ conn.id ≠ updated.id := by
  obtain ⟨old, oldMember, same⟩ := List.mem_map.mp member
  split at same
  · exact .inl same.symm
  · rename_i differs
    cases same
    exact .inr ⟨oldMember, differs⟩

section Node

variable {δ τ : Type} [CDouble δ]

/-- What the loop of `handle_connected_peer` does with a message of a connection. -/
def pmcServeMessage (io : SerialPort τ) (pmc : Pmc τ) (id : ℕ) (m : Message δ)
    (writeOk : ℤ → Bool) : Pmc τ × Option (ℤ × Bytes) :=
  match pmcFindConn pmc.conns id with
  | none => (pmc, none)
  | some conn =>
      if !conn.registered then
        match pmcHandleRegister conn m with
        | some registered => ({ pmc with conns := updateConn pmc.conns registered }, none)
        | none => (pmc, none)
      else if m.type = .register then (pmc, none)
      else
        let result := pmcRouteMessage io pmc conn m writeOk
        (result.pmc, result.wrote)

/-- A line is served as the message it carries. -/
theorem pmcServeLine_message (io : SerialPort τ) (pmc : Pmc τ) (id : ℕ) (line : Bytes)
    (writeOk : ℤ → Bool) :
    pmcServeLine δ io pmc id line writeOk =
      match (lineParse line : Option (Message δ)) with
      | none => (pmc, none)
      | some m => pmcServeMessage io pmc id m writeOk := by
  simp only [pmcServeLine, pmcServeMessage, pmcFindConn]
  cases pmc.conns.find? fun conn => decide (conn.id = id) <;>
    cases (lineParse line : Option (Message δ)) <;> rfl

/-- What a message does: nothing, its connection registers, or it is routed. -/
inductive MessageStep (io : SerialPort τ) (pmc : Pmc τ) (id : ℕ) (m : Message δ)
    (writeOk : ℤ → Bool) : Pmc τ × Option (ℤ × Bytes) → Prop where
  | nothing : (∀ conn, pmcFindConn pmc.conns id = some conn → conn.registered = true →
      conn.type = .sim → m.type = .register) → MessageStep io pmc id m writeOk (pmc, none)
  | registers (conn registered : PmcConnection) : pmcFindConn pmc.conns id = some conn →
      conn.registered = false → pmcHandleRegister conn m = some registered →
      MessageStep io pmc id m writeOk
        ({ pmc with conns := updateConn pmc.conns registered }, none)
  | eqd (conn : PmcConnection) : pmcFindConn pmc.conns id = some conn →
      conn.registered = true → conn.type = .eqd →
      MessageStep io pmc id m writeOk
        ((pmcRouteEqd io pmc conn m writeOk).pmc, (pmcRouteEqd io pmc conn m writeOk).wrote)
  | sim (conn : PmcConnection) : pmcFindConn pmc.conns id = some conn →
      conn.registered = true → conn.type = .sim →
      MessageStep io pmc id m writeOk
        ((pmcRouteSim pmc conn m writeOk).pmc, (pmcRouteSim pmc conn m writeOk).wrote)

/-- **Everything a message can do.** -/
theorem pmcServeMessage_step (io : SerialPort τ) (pmc : Pmc τ) (id : ℕ) (m : Message δ)
    (writeOk : ℤ → Bool) :
    MessageStep io pmc id m writeOk (pmcServeMessage io pmc id m writeOk) := by
  rw [pmcServeMessage]
  cases found : pmcFindConn pmc.conns id with
  | none =>
      refine .nothing fun conn known => ?_
      cases found.symm.trans known
  | some conn =>
  have this {P : PmcConnection → Prop} (holds : P conn) :
      ∀ other, pmcFindConn pmc.conns id = some other → P other := by
    intro other known
    cases found.symm.trans known
    exact holds
  simp only
  cases registered : conn.registered with
  | false =>
      cases known : pmcHandleRegister conn m with
      | none => exact .nothing (this fun yes => by cases registered.symm.trans yes)
      | some peer => exact .registers conn peer found registered known
  | true =>
  simp only [Bool.not_true, Bool.false_eq_true, if_false]
  by_cases isRegister : m.type = .register
  · rw [if_pos isRegister]
    exact .nothing (this fun _ _ => isRegister)
  rw [if_neg isRegister, pmcRouteMessage, if_neg isRegister, registered]
  cases type : conn.type with
  | eqd => exact .eqd conn found registered type
  | sim => exact .sim conn found registered type
  | unknown => exact .nothing (this fun _ isSim => by cases type.symm.trans isSim)

/-- A message of a sim updates the list exactly when it is a STATUS with a state. -/
theorem pmcRouteSim_conns (pmc : Pmc τ) (sim : PmcConnection) (m : Message δ)
    (writeOk : ℤ → Bool) :
    (pmcRouteSim pmc sim m writeOk).pmc.conns =
      match m.type, m.state with
      | .status, some state => updateConn pmc.conns { sim with state := state, hasState := true }
      | _, _ => pmc.conns := by
  rw [pmcRouteSim]
  cases pmcFindEqd (match m.type, m.state with
    | .status, some state => updateConn pmc.conns { sim with state := state, hasState := true }
    | _, _ => pmc.conns) with
  | none => rfl
  | some eqd => exact congrArg Pmc.conns (pmcSend_pmc _ _ _ _)

omit [CDouble δ] in
theorem pmcHandleRegister_some {conn registered : PmcConnection} {m : Message δ}
    (known : pmcHandleRegister conn m = some registered) :
    registered.id = conn.id ∧ registered.fd = conn.fd ∧ registered.registered = true ∧
      registered.hasState = conn.hasState := by
  rw [pmcHandleRegister] at known
  split at known
  · cases known
  split at known
  · cases known
    exact ⟨rfl, rfl, rfl, rfl⟩
  · cases known
    exact ⟨rfl, rfl, rfl, rfl⟩
  · cases known

/-- **A message keeps the ids and descriptors of the connections.** -/
theorem pmcServeMessage_keys (io : SerialPort τ) (pmc : Pmc (τ × List SerialOp))
    (distinct : (pmc.conns.map PmcConnection.id).Nodup) (id : ℕ) (m : Message δ)
    (writeOk : ℤ → Bool) :
    SameKeys (pmcServeMessage io.logged pmc id m writeOk).1.conns pmc.conns := by
  have step := pmcServeMessage_step io.logged pmc id m writeOk
  generalize pmcServeMessage io.logged pmc id m writeOk = result at step ⊢
  cases step with
  | nothing => exact .refl _
  | registers conn registered found _ known =>
      obtain ⟨sameId, sameFd, _⟩ := pmcHandleRegister_some known
      exact updateConn_keys distinct (pmcFindConn_some found).1 sameId sameFd
  | eqd conn =>
      rw [(pmcRouteEqd_step io pmc conn m writeOk).conns]
      exact .refl _
  | sim conn found =>
      rcases (pmcRouteSim_step pmc conn m writeOk).conns with same | ⟨state, same⟩
      · rw [same]
        exact .refl _
      · rw [same]
        exact updateConn_keys distinct (pmcFindConn_some found).1 rfl rfl

/-! ## The node -/

/-- The process controller, and the first id not used yet. -/
structure PmcNode (τ : Type) where
  pmc : Pmc τ
  nextId : ℕ
  fresh : ∀ conn ∈ pmc.conns, conn.id < nextId
  distinctIds : (pmc.conns.map PmcConnection.id).Nodup
  distinctFds : (pmc.conns.map PmcConnection.fd).Nodup

/-- What happens to the controller: a connection on a descriptor, a message of a peer, and the end
of a connection. The outcomes of the writes for a message are part of the input. -/
inductive PmcInput (δ : Type) where
  | connect (fd : ℤ)
  | message (id : ℕ) (m : Message δ) (writeOk : ℤ → Bool)
  | disconnect (id : ℕ)

/-- What is written during an input, and the calls on the serial port, the most recent first. -/
structure PmcCall where
  wrote : Option (ℤ × Bytes)
  log : List SerialOp

/-- The controller at the start of a call, nothing logged. -/
def Pmc.logging (pmc : Pmc τ) : Pmc (τ × List SerialOp) :=
  ⟨pmc.conns, pmc.aux.cfg, pmc.aux.port, []⟩

/-- The controller after a call, without the log. -/
def Pmc.unlogged (pmc : Pmc (τ × List SerialOp)) : Pmc τ :=
  ⟨pmc.conns, pmc.aux.cfg, pmc.aux.port.1⟩

variable (io : SerialPort τ)

/-- The controller once it is connected to equipmentd on a descriptor. -/
def pmcEnter (fd : ℤ) (aux : Aux τ) : PmcNode τ where
  pmc := ⟨[⟨0, fd, .eqd, true, -1, .empty 31, false⟩], aux⟩
  nextId := 1
  fresh := by simp
  distinctIds := by simp
  distinctFds := by simp

/-- A connection on a descriptor that is not open. -/
def PmcNode.connect (node : PmcNode τ) (fd : ℤ)
    (closed : fd ∉ node.pmc.conns.map PmcConnection.fd) : PmcNode τ where
  pmc := { node.pmc with conns := pmcConnAdd node.pmc.conns node.nextId fd }
  nextId := node.nextId + 1
  fresh conn member := by
    rcases List.mem_cons.mp member with rfl | old
    · exact Nat.lt_succ_self _
    · exact Nat.lt_succ_of_lt (node.fresh conn old)
  distinctIds := by
    refine List.nodup_cons.mpr ⟨?_, node.distinctIds⟩
    intro member
    obtain ⟨conn, old, same⟩ := List.mem_map.mp member
    exact absurd same (Nat.ne_of_lt (node.fresh conn old))
  distinctFds := List.nodup_cons.mpr ⟨closed, node.distinctFds⟩

def PmcNode.disconnect (node : PmcNode τ) (id : ℕ) : PmcNode τ where
  pmc := { node.pmc with conns := pmcConnRemove node.pmc.conns id }
  nextId := node.nextId
  fresh conn member := node.fresh conn (List.mem_of_mem_filter member)
  distinctIds := node.distinctIds.sublist (List.filter_sublist.map _)
  distinctFds := node.distinctFds.sublist (List.filter_sublist.map _)

/-- The call of the loop for a message. -/
def PmcNode.call (node : PmcNode τ) (id : ℕ) (m : Message δ) (writeOk : ℤ → Bool) :
    Pmc (τ × List SerialOp) × Option (ℤ × Bytes) :=
  pmcServeMessage io.logged node.pmc.logging id m writeOk

def PmcNode.message (node : PmcNode τ) (id : ℕ) (m : Message δ) (writeOk : ℤ → Bool) :
    PmcNode τ :=
  have keys := pmcServeMessage_keys io node.pmc.logging node.distinctIds id m writeOk
  { pmc := (node.call io id m writeOk).1.unlogged
    nextId := node.nextId
    fresh := by
      intro conn member
      have listed := List.mem_map_of_mem (f := PmcConnection.id) member
      rw [show (node.call io id m writeOk).1.unlogged.conns.map PmcConnection.id = _ from keys.1]
        at listed
      obtain ⟨old, oldMember, same⟩ := List.mem_map.mp listed
      rw [← same]
      exact node.fresh old oldMember
    distinctIds := keys.1.symm ▸ node.distinctIds
    distinctFds := keys.2.symm ▸ node.distinctFds }

/-- The controller from one input to the next. -/
def pmcMachine : Machine (PmcNode τ) (PmcInput δ) PmcCall where
  step node
    | .connect fd =>
        if closed : fd ∉ node.pmc.conns.map PmcConnection.fd then
          (node.connect fd closed, ⟨none, []⟩)
        else (node, ⟨none, []⟩)
    | .message id m writeOk =>
        let called := node.call io id m writeOk
        (node.message io id m writeOk, ⟨called.2, called.1.aux.port.2⟩)
    | .disconnect id => (node.disconnect id, ⟨none, []⟩)

/-! ## Reported states -/

/-- The states a connection reported since it registered, the most recent first. -/
abbrev StateReports := ℕ → List (CString 31)

/-- A connection that registers has reported nothing; after that, every STATUS with a state is
kept. -/
def noteReport (node : PmcNode τ) (input : PmcInput δ) (reports : StateReports) : StateReports :=
  match input with
  | .message id m _ =>
      match pmcFindConn node.pmc.conns id with
      | none => reports
      | some conn =>
          if conn.registered then
            match m.type, m.state with
            | .status, some state => Function.update reports id (state :: reports id)
            | _, _ => reports
          else if (pmcHandleRegister conn m).isSome then Function.update reports id []
          else reports
  | _ => reports

/-- The controller together with the reports of its connections. -/
def reportingMachine : Machine (PmcNode τ × StateReports) (PmcInput δ) PmcCall :=
  (pmcMachine io).withRecord noteReport

/-- A connection remembers a state only as a registered sim, and then the last one reported. -/
def Remembers (reports : StateReports) (conn : PmcConnection) : Prop :=
  conn.hasState = true → conn.registered = true ∧ conn.type = .sim ∧
    (reports conn.id).head? = some conn.state

/-- Every connection does. -/
def Remembered (s : PmcNode τ × StateReports) : Prop := ∀ conn ∈ s.1.pmc.conns, Remembers s.2 conn

/-- The reports of another connection do not matter. -/
theorem Remembers.update {reports : StateReports} {conn : PmcConnection}
    (remembers : Remembers reports conn) {id : ℕ} (other : conn.id ≠ id)
    (states : List (CString 31)) : Remembers (Function.update reports id states) conn := by
  intro known
  rw [Function.update_of_ne other]
  exact remembers known

omit [CDouble δ] in
/-- A message that is not routed from a sim keeps what is remembered. -/
theorem Remembered.note {s : PmcNode τ × StateReports} (remembered : Remembered s) {id : ℕ}
    {m : Message δ} (noSim : ∀ conn, pmcFindConn s.1.pmc.conns id = some conn →
      conn.registered = true → conn.type = .sim → m.type = .register) (writeOk : ℤ → Bool)
    {other : PmcConnection} (member : other ∈ s.1.pmc.conns) :
    Remembers (noteReport s.1 (.message id m writeOk) s.2) other := by
  simp only [noteReport]
  cases found : pmcFindConn s.1.pmc.conns id with
  | none => exact remembered other member
  | some conn =>
  obtain ⟨connMember, connId⟩ := pmcFindConn_some found
  -- An update concerns the connection of the message only, which is no sim that has a state.
  have update : (other = conn → other.hasState = false) → ∀ states,
      Remembers (Function.update s.2 id states) other := by
    intro here states
    by_cases same : other.id = id
    · intro known
      have isConn := List.inj_on_of_nodup_map s.1.distinctIds member connMember
        (same.trans connId.symm)
      cases (here isConn).symm.trans known
    · exact (remembered other member).update same states
  simp only
  split
  · rename_i registered
    split
    · rename_i state type _
      apply update
      rintro rfl
      rw [← Bool.not_eq_true]
      intro known
      have isRegister := noSim other found registered (remembered other member known).2.1
      cases type.symm.trans isRegister
    · exact remembered other member
  · rename_i unregistered
    split
    · apply update
      rintro rfl
      rw [← Bool.not_eq_true]
      intro known
      exact unregistered (remembered other member known).1
    · exact remembered other member

/-- A message keeps what is remembered. -/
theorem Remembered.message {s : PmcNode τ × StateReports} (remembered : Remembered s) (id : ℕ)
    (m : Message δ) (writeOk : ℤ → Bool) :
    Remembered ((reportingMachine io).step s (.message id m writeOk)).1 := by
  intro conn member
  change conn ∈ (s.1.call io id m writeOk).1.conns at member
  change Remembers (noteReport s.1 (.message id m writeOk) s.2) conn
  have step := pmcServeMessage_step io.logged s.1.pmc.logging id m writeOk
  rw [PmcNode.call] at member
  generalize pmcServeMessage io.logged s.1.pmc.logging id m writeOk = result at step member
  cases step with
  | nothing noSim => exact remembered.note noSim writeOk member
  | eqd sender found registered isEqd =>
      rw [(pmcRouteEqd_step io s.1.pmc.logging sender m writeOk).conns] at member
      refine remembered.note (fun conn known _ isSim => ?_) writeOk member
      cases (show pmcFindConn s.1.pmc.conns id = _ from found).symm.trans known
      cases isEqd.symm.trans isSim
  | registers sender peer found unregistered known =>
      rcases mem_updateConn member with rfl | ⟨old, _⟩
      · intro hasState
        rw [(pmcHandleRegister_some known).2.2.2] at hasState
        have registered := (remembered sender (pmcFindConn_some found).1 hasState).1
        cases unregistered.symm.trans registered
      · refine remembered.note (fun conn sameConn registered _ => ?_) writeOk old
        cases (show pmcFindConn s.1.pmc.conns id = _ from found).symm.trans sameConn
        cases unregistered.symm.trans registered
  | sim sender found registered isSim =>
      obtain ⟨_, senderId⟩ := pmcFindConn_some found
      rw [pmcRouteSim_conns] at member
      simp only [noteReport, show pmcFindConn s.1.pmc.conns id = _ from found, registered,
        if_true]
      split at member
      · rename_i state type hasState
        rcases mem_updateConn member with rfl | ⟨old, other⟩
        · intro _
          refine ⟨registered, isSim, ?_⟩
          rw [senderId, Function.update_self]
          rfl
        · exact (remembered conn old).update (senderId ▸ other) _
      · exact remembered conn member

/-- **One input keeps what is remembered.** -/
theorem reportingMachine_remembered (s : PmcNode τ × StateReports) (input : PmcInput δ)
    (remembered : Remembered s) : Remembered ((reportingMachine io).step s input).1 := by
  cases input with
  | connect fd =>
      change Remembered (((pmcMachine (δ := δ) io).step s.1 (.connect fd)).1, s.2)
      rw [pmcMachine]
      simp only
      split
      · intro conn member
        rcases List.mem_cons.mp member with rfl | old
        · intro known
          cases known
        · exact remembered conn old
      · exact remembered
  | disconnect id =>
      intro conn member
      exact remembered conn (List.mem_of_mem_filter member)
  | message id m writeOk => exact remembered.message io id m writeOk

/-! ## What is written to a sim -/

/-- What holds of a line written to a sim for a message: the sim is listed under the message's
device, the line is the message, the interlock let it pass on the last report of the sim, and the
aux device took the heater command that goes with it, as the port and its log show. -/
structure Interlocked (s : PmcNode τ × StateReports) (m : Message δ) (sim : PmcConnection)
    (line : Bytes) (port : τ × List SerialOp) : Prop where
  listed : sim ∈ s.1.pmc.conns ∧ sim.registered = true ∧ sim.type = .sim
  dev : ∃ dev, m.dev = some dev ∧ sim.devId = dev.toInt32
  text : line = lineText m ++ [10]
  reported : ∀ required ∈ interlockState m.type,
    ∃ state, (s.2 sim.id).head? = some state ∧ state.bytes = required
  heater : s.1.pmc.aux.cfg.enabled = true → m.dev = some 1 → ∀ on ∈ heaterFor m.type,
    lastHeater port.2 = some on ∧ HeaterAnswered io.logged on port

/-- **What routing to a sim writes is interlocked.** -/
theorem Remembered.interlocked {s : PmcNode τ × StateReports} (remembered : Remembered s)
    {m : Message δ} {sim : PmcConnection} (routed : Routed s.1.pmc.conns m sim)
    {dev : UInt32} (hasDev : m.dev = some dev) {aux : Aux (τ × List SerialOp)}
    (accepted : applyAuxForCommand io.logged dev.toInt32 m.type s.1.pmc.logging.aux =
      (.ok (), aux)) :
    Interlocked io s m sim (lineText m ++ [10]) aux.port := by
  obtain ⟨⟨dev', hasDev', found⟩, passes⟩ := routed
  cases hasDev.symm.trans hasDev'
  have meets := List.find?_some found
  simp only [Bool.and_eq_true, decide_eq_true_eq] at meets
  have member := List.mem_of_find?_eq_some found
  refine ⟨⟨member, meets.1.1, meets.1.2⟩, ⟨dev, hasDev, meets.2⟩, rfl, ?_, ?_⟩
  · intro required command
    obtain ⟨hasState, isRequired⟩ := pmcInterlockCheck_state passes command
    exact ⟨sim.state, (remembered sim member hasState).2.2, isRequired⟩
  · intro enabled toPreclean on command
    cases hasDev.symm.trans toPreclean
    have heater := (applyAuxForCommand_heater io 1 m.type s.1.pmc.logging.aux).2 enabled rfl
    rw [show applyAuxForCommand io.logged 1 m.type s.1.pmc.logging.aux = _ from accepted,
      command] at heater
    exact ⟨heater rfl rfl, applyAuxForCommand_reply command enabled accepted⟩

omit [CDouble δ] in
/-- Connections on one descriptor are the same. -/
theorem PmcNode.eq_of_fd {node : PmcNode τ} {first second : PmcConnection}
    (one : first ∈ node.pmc.conns) (two : second ∈ node.pmc.conns) (same : first.fd = second.fd) :
    first = second :=
  List.inj_on_of_nodup_map node.distinctFds one two same

/-- A message of a sim is not written to a sim. -/
theorem pmcRouteSim_not_to_sim {node : PmcNode τ} {sender peer : PmcConnection}
    (isSim : sender.type = .sim) {m : Message δ} {writeOk : ℤ → Bool} {wrote : ℤ × Bytes}
    (written : (pmcRouteSim node.pmc.logging sender m writeOk).wrote = some wrote)
    (listed : peer ∈ node.pmc.conns) (onPeer : peer.fd = wrote.1) : peer.type ≠ .sim := by
  have step := pmcRouteSim_step node.pmc.logging sender m writeOk
  obtain ⟨eqd, found, same⟩ := step.wrote wrote written
  have isEqd := List.find?_some found
  simp only [Bool.and_eq_true, decide_eq_true_eq] at isEqd
  have member : eqd ∈ node.pmc.conns := by
    have after := List.mem_of_find?_eq_some found
    rcases step.conns with conns | ⟨state, conns⟩
    · rwa [conns] at after
    · rw [conns] at after
      rcases mem_updateConn after with rfl | ⟨old, _⟩
      · cases isSim.symm.trans isEqd.2
      · exact old
  rw [PmcNode.eq_of_fd listed member (onPeer.trans same), isEqd.2]
  decide

/-- What a message of equipmentd writes to a sim is interlocked. -/
theorem Remembered.eqd {s : PmcNode τ × StateReports} (remembered : Remembered s)
    {sender peer : PmcConnection} (listed : sender ∈ s.1.pmc.conns) (isEqd : sender.type = .eqd)
    {m : Message δ} {writeOk : ℤ → Bool} {wrote : ℤ × Bytes}
    (written : (pmcRouteEqd io.logged s.1.pmc.logging sender m writeOk).wrote = some wrote)
    (member : peer ∈ s.1.pmc.conns) (isSim : peer.type = .sim) (onPeer : peer.fd = wrote.1) :
    Interlocked io s m peer wrote.2
      (pmcRouteEqd io.logged s.1.pmc.logging sender m writeOk).pmc.aux.port := by
  have notAnswer : wrote.1 ≠ sender.fd := by
    intro same
    rw [PmcNode.eq_of_fd member listed (onPeer.trans same), isEqd] at isSim
    cases isSim
  have route := pmcRouteEqd_route io.logged s.1.pmc.logging sender m writeOk
  generalize pmcRouteEqd io.logged s.1.pmc.logging sender m writeOk = result at route written ⊢
  cases route with
  | rejected code text => exact absurd (pmcSend_fd wrote written) notAnswer
  | status dev sim => exact absurd (pmcSend_fd wrote written) notAnswer
  | toSim sim routed =>
  obtain ⟨⟨dev, hasDev, found⟩, _⟩ := id routed
  have toSim := pmcRouteToSim_route io.logged s.1.pmc.logging sender sim hasDev writeOk
  generalize pmcRouteToSim io.logged s.1.pmc.logging sender sim m writeOk = result
    at toSim written ⊢
  cases toSim with
  | refused text aux => exact absurd (pmcSend_fd wrote written) notAnswer
  | unsent aux => exact absurd (pmcSend_fd wrote written) notAnswer
  | sent aux sentLine accepted sent =>
      cases written
      cases pmcIoSendMessage_some sent
      rw [PmcNode.eq_of_fd member (pmcFindSim_devId found).1 onPeer]
      exact remembered.interlocked io routed hasDev accepted

/-- **Whatever is written to a sim is interlocked**, in every run. -/
theorem writes_interlocked (fd : ℤ) (aux : Aux τ) (inputs : List (PmcInput δ)) :
    let s := (reportingMachine io).run (pmcEnter fd aux, fun _ => []) inputs
    ∀ (id : ℕ) (m : Message δ) (writeOk : ℤ → Bool) (wrote : ℤ × Bytes) (peer : PmcConnection),
      let next := (reportingMachine io).step s (.message id m writeOk)
      next.2.wrote = some wrote → peer ∈ s.1.pmc.conns → peer.type = .sim → peer.fd = wrote.1 →
        Interlocked io s m peer wrote.2 (next.1.1.pmc.aux.port, next.2.log) := by
  intro s id m writeOk wrote peer next written member isSim onPeer
  have remembered : Remembered s := by
    refine Machine.invariant (reportingMachine_remembered io) ?_ inputs
    intro conn listed
    rw [List.mem_singleton.mp listed]
    intro known
    cases known
  have step := pmcServeMessage_step io.logged s.1.pmc.logging id m writeOk
  change (pmcServeMessage io.logged s.1.pmc.logging id m writeOk).2 = some wrote at written
  change Interlocked io s m peer wrote.2
    (pmcServeMessage io.logged s.1.pmc.logging id m writeOk).1.aux.port
  generalize pmcServeMessage io.logged s.1.pmc.logging id m writeOk = result at step written ⊢
  cases step with
  | nothing => cases written
  | registers => cases written
  | eqd sender found _ isEqd =>
      exact remembered.eqd io (pmcFindConn_some found).1 isEqd written member isSim onPeer
  | sim sender _ _ senderSim =>
      exact absurd isSim (pmcRouteSim_not_to_sim senderSim written member onPeer)

end Node

/-- A sim connects, registers for module 1 and reports that it is idle. -/
def simReportsIdle : List (PmcInput ℚ) :=
  [.connect 5, .message 1 { role := .evt, type := .register, dev := some 1 } fun _ => true,
    .message 1 { role := .evt, type := .status, dev := some 1
                 state := some (strncpy 31 (ascii "IDLE")) } fun _ => true]

/-- The START that equipmentd sends then is written to the sim, with the heater switched on. -/
theorem writes_interlocked_start :
    let s := (reportingMachine auxDevicePort).run (pmcEnter 4 ⟨plantCfg, ⟨false, []⟩⟩, fun _ => [])
      simReportsIdle
    let next := (reportingMachine auxDevicePort).step s (.message 0 (startRequest 1) fun _ => true)
    Interlocked auxDevicePort s (startRequest 1) (idleSim 1) (ascii "REQ START dev=1 seq=7\n")
      (next.1.1.pmc.aux.port, next.2.log) :=
  writes_interlocked auxDevicePort 4 ⟨plantCfg, ⟨false, []⟩⟩ simReportsIdle 0 (startRequest 1)
    (fun _ => true) (5, ascii "REQ START dev=1 seq=7\n") (idleSim 1) (by decide +kernel)
    (by decide +kernel) rfl rfl

end EquipmentControl
