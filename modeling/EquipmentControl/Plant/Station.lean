import EquipmentControl.Library.Conservation
import EquipmentControl.Pmc.InterlockRuns
import EquipmentControl.Protocol.Relaying
import EquipmentControl.Sim.DeviceRuns
import Mathlib.Data.Multiset.AddSub

/-!
# The process controller with its simulators

The process controller of `nodes/pmc/src` with any number of simulators of `nodes/deviced/sim`
behind it, from the moment its connections are made. Between the controller and a simulator lines
are kept in order, and they are delivered and handled at any time.

Requests are told apart by sequence number and device (`lineKeys`). `Wired` says which connections
the controller has.
-/

set_option autoImplicit false

namespace EquipmentControl

open InputMachine

/-! ## The station -/

/-- The connections of the controller: to equipmentd, and to each simulator. `order` is the order of
the simulators in the list, the one accepted last first. -/
structure Wiring (κ : Type) where
  eqdId : ℕ
  eqdFd : ℤ
  simId : κ → ℕ
  simFd : κ → ℤ
  devId : κ → Int32
  order : List κ
  complete : ∀ i, i ∈ order
  nodup : order.Nodup
  simId_injective : Function.Injective simId
  simFd_injective : Function.Injective simFd
  devId_injective : Function.Injective devId
  simId_ne : ∀ i, simId i ≠ eqdId
  simFd_ne : ∀ i, simFd i ≠ eqdFd

/-- The controller, the simulators, and the lines on their way between them. -/
structure Station (κ δ τ : Type) where
  pmc : Pmc τ
  sims : κ → SimCtx δ
  toSim : κ → List Bytes
  toPmc : κ → List Bytes

/-- A line of equipmentd, the delivery of a simulator's line to the controller, or a turn of a
simulator on some of the lines sent to it. The outcomes of the controller's writes are part of the
input. -/
inductive StationInput (κ : Type) where
  | request (line : Bytes) (writeOk : ℤ → Bool)
  | deliver (i : κ) (writeOk : ℤ → Bool)
  | simTurn (i : κ) (lines : ℕ)

/-- What was written on a descriptor. -/
def sentOn (fd : ℤ) (wrote : Option (ℤ × Bytes)) : List Bytes :=
  (wrote.toList.filter fun sent => decide (sent.1 = fd)).map Prod.snd

/-- The sequence number and the device of a message. -/
abbrev RequestKey := Option UInt32 × Option UInt32

section Station

variable {κ δ τ : Type}

/-- What the controller does with a line: what it writes to the simulators is on its way, and
equipmentd gets the rest. -/
def Station.served (w : Wiring κ) (s : Station κ δ τ) (result : Pmc τ × Option (ℤ × Bytes)) :
    Station κ δ τ × List Bytes :=
  ({ s with
      pmc := result.1
      toSim := fun i => s.toSim i ++ sentOn (w.simFd i) result.2 }, sentOn w.eqdFd result.2)

variable [CDouble δ]

variable (δ) in
/-- The line in which a simulator registers. -/
def registerLine (devId : Int32) : Bytes :=
  lineText ({ role := .evt, type := .register, dev := some devId.toUInt32 } : Message δ) ++ [10]

/-- The key of a line that carries a message of a role, other than a REGISTER. -/
def lineKeys (δ : Type) [CDouble δ] (role : MsgRole) (line : Bytes) : Multiset RequestKey :=
  (lineParse line : Option (Message δ)).elim 0 fun m =>
    if m.role = role ∧ m.type ≠ .register then {(m.seq, m.dev)} else 0

/-- The state a line reports. -/
def lineState (δ : Type) [CDouble δ] (line : Bytes) : Option (CString 31) :=
  (lineParse line : Option (Message δ)).bind statusState

/-- The keys of some lines. -/
def linesKeys (δ : Type) [CDouble δ] (role : MsgRole) (lines : List Bytes) :
    Multiset RequestKey :=
  (lines.map (lineKeys δ role)).sum

variable [DecidableEq κ] (w : Wiring κ) (io : SerialPort τ)

/-- The station from one input to the next. Its outputs are the lines equipmentd gets. -/
def stationMachine : Machine (Station κ δ τ) (StationInput κ) (List Bytes) where
  step s input :=
    match input with
    | .request line writeOk => s.served w (pmcServeLine δ io s.pmc w.eqdId line writeOk)
    | .deliver i writeOk =>
        match s.toPmc i with
        | [] => (s, [])
        | line :: rest =>
            { s with toPmc := Function.update s.toPmc i rest }.served w
              (pmcServeLine δ io s.pmc (w.simId i) line writeOk)
    | .simTurn i lines =>
        let turned := simTurn (s.sims i) ((s.toSim i).take lines)
        ({ s with
            sims := Function.update s.sims i turned.1
            toSim := Function.update s.toSim i ((s.toSim i).drop lines)
            toPmc := Function.update s.toPmc i (s.toPmc i ++ turned.2) }, [])

/-- Connections are made, and what each simulator sends before its loop is on its way. -/
def stationStart (aux : Aux τ) : Station κ δ τ where
  pmc := ⟨w.order.foldr (fun i conns => pmcConnAdd conns (w.simId i) (w.simFd i))
    [⟨w.eqdId, w.eqdFd, .eqd, true, -1, .empty 31, false⟩], aux⟩
  sims i := (simStart (w.devId i)).1
  toSim _ := []
  toPmc i := (simStart (δ := δ) (w.devId i)).2

/-- The requests not answered yet: those on their way to a simulator, and those whose answer is on
its way back. -/
def Station.owed [Fintype κ] (s : Station κ δ τ) : Multiset RequestKey :=
  ∑ i, (linesKeys δ .req (s.toSim i) + linesKeys δ .resp (s.toPmc i))

end Station

/-! ## Lines and keys -/

section Lines

variable {δ : Type} [CDouble δ]

theorem sentOn_some (fd : ℤ) (wrote : ℤ × Bytes) :
    sentOn fd (some wrote) = if wrote.1 = fd then [wrote.2] else [] := by
  by_cases same : wrote.1 = fd <;> simp [sentOn, same]

@[simp] theorem sentOn_none (fd : ℤ) : sentOn fd none = [] := rfl

@[simp] theorem linesKeys_nil (role : MsgRole) : linesKeys δ role [] = 0 := rfl

@[simp] theorem linesKeys_cons (role : MsgRole) (line : Bytes) (lines : List Bytes) :
    linesKeys δ role (line :: lines) = lineKeys δ role line + linesKeys δ role lines := by
  simp [linesKeys]

@[simp] theorem linesKeys_append (role : MsgRole) (first second : List Bytes) :
    linesKeys δ role (first ++ second) = linesKeys δ role first + linesKeys δ role second := by
  simp [linesKeys]

theorem lineKeys_none {line : Bytes} (role : MsgRole)
    (parsed : (lineParse line : Option (Message δ)) = none) : lineKeys δ role line = 0 := by
  rw [lineKeys, parsed]
  rfl

theorem lineKeys_some {line : Bytes} {m : Message δ} (role : MsgRole)
    (parsed : lineParse line = some m) :
    lineKeys δ role line =
      if m.role = role ∧ m.type ≠ .register then {(m.seq, m.dev)} else 0 := by
  rw [lineKeys, parsed]
  rfl

/-- A formatted message of another role has no key. -/
theorem lineKeys_formatted {m : Message δ} {role : MsgRole} (other : m.role ≠ role) :
    lineKeys δ role (lineText m ++ [10]) = 0 := by
  cases parsed : (lineParse (lineText m ++ [10]) : Option (Message δ)) with
  | none => exact lineKeys_none role parsed
  | some out =>
      rw [lineKeys_some role parsed, (lineParse_lineText_head parsed).1]
      exact if_neg fun both => other both.1

theorem clean_strncpy {cap : ℕ} {text : Bytes} (clean : Clean text) :
    Clean (strncpy cap text).bytes :=
  fun b member => clean b ((List.takeWhile_sublist _).subset (List.mem_of_mem_take member))

theorem clean_fsmStateToString (state : SimState) : Clean (fsmStateToString state) := by
  cases state <;> decide

end Lines

/-! ## The connections -/

section Connections

variable {κ : Type}

/-- The connection to equipmentd. -/
structure IsEqdConn (w : Wiring κ) (conn : PmcConnection) : Prop where
  id : conn.id = w.eqdId
  fd : conn.fd = w.eqdFd
  registered : conn.registered = true
  type : conn.type = .eqd

/-- The connection to a simulator, before or after it registers. -/
structure IsSimConn (w : Wiring κ) (i : κ) (conn : PmcConnection) : Prop where
  id : conn.id = w.simId i
  fd : conn.fd = w.simFd i
  unregistered : conn.registered = false → conn.type = .unknown
  registered : conn.registered = true → conn.type = .sim ∧ conn.devId = w.devId i
  state : conn.hasState = true → ∃ state, conn.state = strncpy 31 (fsmStateToString state)

/-- The state a connection remembers. -/
def rememberedState (conn : PmcConnection) : Option (CString 31) :=
  if conn.hasState then some conn.state else none

/-- The state the controller has recorded for a connection. -/
def recordedState (conns : List PmcConnection) (id : ℕ) : Option (CString 31) :=
  (pmcFindConn conns id).bind rememberedState

/-- The connections of the controller are those of the wiring. -/
structure Wired (w : Wiring κ) (conns : List PmcConnection) : Prop where
  distinct : (conns.map PmcConnection.id).Nodup
  peers : ∀ conn ∈ conns, IsEqdConn w conn ∨ ∃ i, IsSimConn w i conn
  eqd : ∃ conn ∈ conns, conn.id = w.eqdId
  sims : ∀ i, ∃ conn ∈ conns, conn.id = w.simId i

namespace Wired

variable {w : Wiring κ} {conns : List PmcConnection}

theorem findConn_eqd (wired : Wired w conns) :
    ∃ conn, pmcFindConn conns w.eqdId = some conn ∧ IsEqdConn w conn := by
  obtain ⟨conn, member, here⟩ := wired.eqd
  have isSome : (pmcFindConn conns w.eqdId).isSome := by
    rw [pmcFindConn, List.find?_isSome]
    exact ⟨conn, member, decide_eq_true here⟩
  obtain ⟨found, same⟩ := Option.isSome_iff_exists.mp isSome
  obtain ⟨inList, id⟩ := pmcFindConn_some same
  rcases wired.peers found inList with isEqd | ⟨i, isSim⟩
  · exact ⟨found, same, isEqd⟩
  · exact absurd (isSim.id.symm.trans id) (w.simId_ne i)

theorem findConn_sim (wired : Wired w conns) (i : κ) :
    ∃ conn, pmcFindConn conns (w.simId i) = some conn ∧ IsSimConn w i conn := by
  obtain ⟨conn, member, here⟩ := wired.sims i
  have isSome : (pmcFindConn conns (w.simId i)).isSome := by
    rw [pmcFindConn, List.find?_isSome]
    exact ⟨conn, member, decide_eq_true here⟩
  obtain ⟨found, same⟩ := Option.isSome_iff_exists.mp isSome
  obtain ⟨inList, id⟩ := pmcFindConn_some same
  rcases wired.peers found inList with isEqd | ⟨j, isSim⟩
  · exact absurd (id.symm.trans isEqd.id) (w.simId_ne i)
  · cases w.simId_injective (isSim.id.symm.trans id)
    exact ⟨found, same, isSim⟩

/-- The first connection of equipmentd is its own. -/
theorem findEqd (wired : Wired w conns) :
    ∃ eqd, pmcFindEqd conns = some eqd ∧ eqd.fd = w.eqdFd := by
  obtain ⟨conn, found, isEqd⟩ := wired.findConn_eqd
  have isSome : (pmcFindEqd conns).isSome := by
    rw [pmcFindEqd, List.find?_isSome]
    exact ⟨conn, (pmcFindConn_some found).1, by simp [isEqd.registered, isEqd.type]⟩
  obtain ⟨eqd, same⟩ := Option.isSome_iff_exists.mp isSome
  refine ⟨eqd, same, ?_⟩
  have meets := List.find?_some same
  simp only [Bool.and_eq_true, decide_eq_true_eq] at meets
  rcases wired.peers eqd (List.mem_of_find?_eq_some same) with isEqd | ⟨i, isSim⟩
  · exact isEqd.fd
  · have type := (isSim.registered meets.1).1
    rw [meets.2] at type
    cases type

/-- A sim that is found by its device is the simulator of that device. -/
theorem findSim (wired : Wired w conns) {dev : Int32} {sim : PmcConnection}
    (found : pmcFindSim conns dev = some sim) : ∃ i, IsSimConn w i sim ∧ w.devId i = dev := by
  have meets := List.find?_some found
  simp only [Bool.and_eq_true, decide_eq_true_eq] at meets
  obtain ⟨⟨registered, isSim⟩, devId⟩ := meets
  rcases wired.peers sim (pmcFindSim_devId found).1 with isEqd | ⟨i, conn⟩
  · rw [isEqd.type] at isSim
    cases isSim
  · exact ⟨i, conn, (conn.registered registered).2.symm.trans devId⟩

/-- The connection of a simulator is updated. -/
theorem update (wired : Wired w conns) {i : κ} {conn : PmcConnection} (isSim : IsSimConn w i conn) :
    Wired w (updateConn conns conn) := by
  obtain ⟨old, found, isOld⟩ := wired.findConn_sim i
  have keys := updateConn_keys wired.distinct (pmcFindConn_some found).1
    (isSim.id.trans isOld.id.symm) (isSim.fd.trans isOld.fd.symm)
  have kept : ∀ id, (∃ conn ∈ conns, conn.id = id) → ∃ other ∈ updateConn conns conn,
      other.id = id := by
    rintro _ ⟨other, member, rfl⟩
    have listed := List.mem_map_of_mem (f := PmcConnection.id) member
    rw [← keys.1] at listed
    exact List.mem_map.mp listed
  refine ⟨keys.1 ▸ wired.distinct, ?_, kept _ wired.eqd, fun j => kept _ (wired.sims j)⟩
  intro other member
  rcases mem_updateConn member with rfl | ⟨inList, _⟩
  · exact .inr ⟨i, isSim⟩
  · exact wired.peers other inList

end Wired

end Connections

end EquipmentControl
